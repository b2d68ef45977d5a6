import TokyoTester.Tests.Interpolation
import TokyoTester.Bundle.Executable

set_option autoImplicit false

/-! # What is interpolated (`pkg/test/interpolator.go`, `pkg/orchestrator/orchestrator.go`)

A test configuration is a tree of maps, lists and texts of several Go types. The interpolation goes
into the texts and the maps of type `map[string]any`; lists, maps of type `map[string]string` and
keys stay as they are. Of a service only the environment is interpolated. Every text of a
configuration is listed here together with whether it is reached. -/

namespace TokyoTester

open Text Transaction

/-! ## Maps -/

section Maps

variable {α β : Type} {f : String → α → Except String β}

/-- A loop over the entries of a map. -/
def mapEntries (f : String → α → Except String β) :
    List (String × α) → Except String (List (String × β))
  | [] => .ok []
  | (key, value) :: rest => do
    let value ← f key value
    let rest ← mapEntries f rest
    .ok ((key, value) :: rest)

theorem mapEntries_ok {entries : List (String × α)} {results : List (String × β)}
    (h : mapEntries f entries = .ok results) :
    List.Forall₂ (fun x y => y.1 = x.1 ∧ f x.1 x.2 = .ok y.2) entries results := by
  induction entries generalizing results with
  | nil =>
      obtain rfl := Except.ok.inj h
      exact .nil
  | cons x rest ih =>
      obtain ⟨key, value⟩ := x
      obtain ⟨v, hv, h⟩ := bind_eq_ok.1 h
      obtain ⟨vs, hvs, h⟩ := bind_eq_ok.1 h
      obtain rfl := Except.ok.inj h
      exact .cons ⟨rfl, hv⟩ (ih hvs)

theorem mapEntries_total (hf : ∀ key value, ∃ result, f key value = .ok result)
    (entries : List (String × α)) : ∃ results, mapEntries f entries = .ok results := by
  induction entries with
  | nil => exact ⟨[], rfl⟩
  | cons x rest ih =>
      obtain ⟨v, hv⟩ := hf x.1 x.2
      obtain ⟨vs, hvs⟩ := ih
      refine ⟨(x.1, v) :: vs, ?_⟩
      rw [mapEntries, hv, hvs]
      rfl

theorem keys_of_forall₂ {R : String × α → String × β → Prop} {xs : List (String × α)}
    {ys : List (String × β)} (h : List.Forall₂ R xs ys) (hR : ∀ x y, R x y → y.1 = x.1) :
    ys.map (·.1) = xs.map (·.1) := by
  induction h with
  | nil => rfl
  | cons hxy _ ih => rw [List.map_cons, List.map_cons, ih, hR _ _ hxy]

theorem sorted_of_keys {xs : List (String × α)} {ys : List (String × β)}
    (hkeys : ys.map (·.1) = xs.map (·.1)) (h : xs.Pairwise fun x y => x.1 < y.1) :
    ys.Pairwise fun x y => x.1 < y.1 := by
  have hmap : (xs.map (·.1)).Pairwise (· < ·) := List.pairwise_map.2 h
  rw [← hkeys] at hmap
  exact List.pairwise_map.1 hmap

/-- A loop that writes its results into a new map. -/
def traverse (f : String → α → Except String β) (m : GoMap α) : Except String (GoMap β) :=
  match h : mapEntries f m.entries with
  | .ok entries =>
    .ok ⟨entries, sorted_of_keys (keys_of_forall₂ (mapEntries_ok h) fun _ _ hxy => hxy.1) m.sorted⟩
  | .error e => .error e

theorem traverse_ok {m : GoMap α} {r : GoMap β} (h : traverse f m = .ok r) :
    List.Forall₂ (fun x y => y.1 = x.1 ∧ f x.1 x.2 = .ok y.2) m.entries r.entries := by
  unfold traverse at h
  split at h
  next entries hentries =>
    obtain rfl := Except.ok.inj h
    exact mapEntries_ok hentries
  next e herror => cases h

theorem traverse_of_mapEntries {m : GoMap α} {entries : List (String × β)}
    (h : mapEntries f m.entries = .ok entries) : ∃ r, traverse f m = .ok r ∧ r.entries = entries := by
  unfold traverse
  split
  next entries' hentries =>
    refine ⟨_, rfl, ?_⟩
    exact Except.ok.inj (hentries.symm.trans h)
  next e herror => cases h.symm.trans herror

theorem traverse_total (hf : ∀ key value, ∃ result, f key value = .ok result) (m : GoMap α) :
    ∃ r, traverse f m = .ok r := by
  obtain ⟨results, hresults⟩ := mapEntries_total hf m.entries
  obtain ⟨r, hr, -⟩ := traverse_of_mapEntries hresults
  exact ⟨r, hr⟩

end Maps

/-! ## The traversal -/

section Traversal

variable (resolve : String → Except String String)

mutual

/-- `InterpolateTestConfig` on a value read from JSON. -/
def interpolateJson (key : String) : Json → Except String Json
  | .str s => do
    let s ← interpolateText resolve key s
    .ok (.str s)
  | .obj members => do
    let members ← interpolateMembers members
    .ok (.obj members)
  | j => .ok j

def interpolateMembers : List (String × Json) → Except String (List (String × Json))
  | [] => .ok []
  | (key, value) :: rest => do
    let value ← interpolateJson key value
    let rest ← interpolateMembers rest
    .ok ((key, value) :: rest)

end

theorem interpolateMembers_keys {members members' : List (String × Json)}
    (h : interpolateMembers resolve members = .ok members') :
    members'.map (·.1) = members.map (·.1) := by
  induction members generalizing members' with
  | nil =>
      rw [interpolateMembers] at h
      obtain rfl := Except.ok.inj h
      rfl
  | cons x rest ih =>
      obtain ⟨key, value⟩ := x
      rw [interpolateMembers] at h
      obtain ⟨v, -, h⟩ := bind_eq_ok.1 h
      obtain ⟨vs, hvs, h⟩ := bind_eq_ok.1 h
      obtain rfl := Except.ok.inj h
      rw [List.map_cons, List.map_cons, ih hvs]

mutual

theorem interpolateJson_canonical {key : String} : ∀ {j j' : Json}, j.canonical = true →
    interpolateJson resolve key j = .ok j' → j'.canonical = true
  | .str s, j', _, h => by
      rw [interpolateJson] at h
      obtain ⟨s', -, h⟩ := bind_eq_ok.1 h
      obtain rfl := Except.ok.inj h
      rw [Json.canonical]
  | .obj members, j', hcanonical, h => by
      rw [interpolateJson] at h
      obtain ⟨members', hmembers, h⟩ := bind_eq_ok.1 h
      obtain rfl := Except.ok.inj h
      rw [Json.canonical, Bool.and_eq_true, decide_eq_true_eq] at hcanonical ⊢
      exact ⟨sorted_of_keys (interpolateMembers_keys resolve hmembers) hcanonical.1,
        interpolateMembers_canonical hcanonical.2 hmembers⟩
  | .null, j', hcanonical, h | .bool _, j', hcanonical, h | .num _, j', hcanonical, h
  | .arr _, j', hcanonical, h => by
      rw [interpolateJson] at h
      · obtain rfl := Except.ok.inj h
        exact hcanonical
      all_goals simp

theorem interpolateMembers_canonical : ∀ {members members' : List (String × Json)},
    Json.canonicalMembers members = true → interpolateMembers resolve members = .ok members' →
      Json.canonicalMembers members' = true
  | [], members', hcanonical, h => by
      rw [interpolateMembers] at h
      obtain rfl := Except.ok.inj h
      exact hcanonical
  | (key, value) :: rest, members', hcanonical, h => by
      rw [interpolateMembers] at h
      obtain ⟨v, hv, h⟩ := bind_eq_ok.1 h
      obtain ⟨vs, hvs, h⟩ := bind_eq_ok.1 h
      obtain rfl := Except.ok.inj h
      rw [Json.canonicalMembers, Bool.and_eq_true] at hcanonical ⊢
      exact ⟨interpolateJson_canonical hcanonical.1 hv,
        interpolateMembers_canonical hcanonical.2 hvs⟩

end

theorem interpolateJson_notNull {key : String} {j j' : Json} (hnull : j.isNull = false)
    (h : interpolateJson resolve key j = .ok j') : j'.isNull = false := by
  cases j with
  | str s =>
      rw [interpolateJson] at h
      obtain ⟨s', -, h⟩ := bind_eq_ok.1 h
      obtain rfl := Except.ok.inj h
      rfl
  | obj members =>
      rw [interpolateJson] at h
      obtain ⟨members', -, h⟩ := bind_eq_ok.1 h
      obtain rfl := Except.ok.inj h
      rfl
  | null | bool _ | num _ | arr _ =>
      rw [interpolateJson] at h
      · obtain rfl := Except.ok.inj h
        exact hnull
      all_goals simp

/-- A value of type `any` other than nil. -/
def interpolateAny (key : String) (v : AnyValue) : Except String AnyValue :=
  match h : interpolateJson resolve key v.json with
  | .ok j => .ok ⟨j, interpolateJson_canonical resolve v.canonical h,
      interpolateJson_notNull resolve v.notNull h⟩
  | .error e => .error e

/-- A value of a `map[string]any` that was read from JSON. -/
def interpolateEntry (key : String) : Option AnyValue → Except String (Option AnyValue)
  | none => .ok none
  | some v => do
    let v ← interpolateAny resolve key v
    .ok (some v)

/-- The switch on the type of a value. -/
def interpolateValue (key : String) : ConfigValue → Except String ConfigValue
  | .string v => do
    let resolved ← interpolateText resolve key v
    .ok (.string resolved)
  | .document v => do
    let interpolated ← traverse (interpolateEntry resolve) v
    .ok (.document interpolated)
  | .any v => do
    let v ← interpolateAny resolve key v
    .ok (.any v)
  | value => .ok value

/-- `InterpolateTestConfig`. -/
def interpolateTestConfig (config : Config) : Except String Config :=
  traverse (interpolateValue resolve) config

/-- What `provisionlevel` does to a configuration before the service is provisioned. -/
def interpolateService (cfg : ServiceConfig) : Except String ServiceConfig := do
  let interpolated ← traverse (interpolateText resolve) cfg.env
  .ok { cfg with env := interpolated }

end Traversal

/-! ## The texts of a configuration -/

/-- Texts in the order in which they stand, with whether the interpolation reaches them. -/
abbrev Texts := List (Bool × String)

mutual

/-- The texts of a value, inside of a list or not. -/
def jsonTexts (reached : Bool) : Json → Texts
  | .str s => [(reached, s)]
  | .arr items => itemTexts items
  | .obj members => memberTexts reached members
  | _ => []

def itemTexts : List Json → Texts
  | [] => []
  | item :: rest => jsonTexts false item ++ itemTexts rest

def memberTexts (reached : Bool) : List (String × Json) → Texts
  | [] => []
  | (key, value) :: rest => (false, key) :: jsonTexts reached value ++ memberTexts reached rest

end

def entryTexts (reached : Bool) (e : String × Option AnyValue) : Texts :=
  (false, e.1) :: match e.2 with
    | some v => jsonTexts reached v.json
    | none => []

def documentTexts (reached : Bool) (m : Document) : Texts := m.entries.flatMap (entryTexts reached)

def ConfigValue.texts : ConfigValue → Texts
  | .string s => [(true, s)]
  | .strings m => m.entries.flatMap fun e => [(false, e.1), (false, e.2)]
  | .document m => documentTexts true m
  | .documents ms => ms.flatMap fun m => documentTexts false (m.getD .empty)
  | .any v => jsonTexts true v.json
  | _ => []

/-- Every text of an executor configuration. -/
def Config.texts (config : Config) : Texts :=
  config.entries.flatMap fun e => (false, e.1) :: e.2.texts

/-- Every text of a service's environment, command and init scripts. -/
def ServiceConfig.texts (cfg : ServiceConfig) : Texts :=
  (cfg.env.entries.flatMap fun e => [(false, e.1), (true, e.2)]) ++
    (cfg.command.map fun s => (false, s)) ++ cfg.initScripts.map fun s => (false, s)

/-! ## What becomes of them -/

section Received

variable {resolve : String → Except String String}

/-- What is received for a text: its interpolation where it is reached, else the text. -/
def Received (resolve : String → Except String String) (x y : Bool × String) : Prop :=
  if x.1 then ∃ key, interpolateText resolve key x.2 = .ok y.2 else y.2 = x.2

/-- Each reference of a text has a value, and what is received has it in its place. -/
structure Replaced (resolve : String → Except String String) (text received : String) : Prop where
  resolved : ∀ varRef ∈ referencesOf text, ∃ value, resolve varRef = .ok value
  value : received = simultaneous (valueOf resolve) text

theorem received_missed (text : String) : Received resolve (false, text) (false, text) := rfl

/-- Texts that are not reached are received as they are. -/
theorem received_refl {xs : Texts} (h : ∀ x ∈ xs, x.1 = false) :
    List.Forall₂ (Received resolve) xs xs := by
  induction xs with
  | nil => exact .nil
  | cons x xs ih =>
      obtain ⟨reached, text⟩ := x
      obtain rfl : reached = false := h (reached, text) (by simp)
      exact .cons (received_missed text) (ih fun y hy => h y (by simp [hy]))

theorem received_flatMap {α β : Type} {R : α → β → Prop} {f : α → Texts} {g : β → Texts}
    {xs : List α} {ys : List β} (h : List.Forall₂ R xs ys)
    (hstep : ∀ x y, R x y → List.Forall₂ (Received resolve) (f x) (g y)) :
    List.Forall₂ (Received resolve) (xs.flatMap f) (ys.flatMap g) := by
  induction h with
  | nil => exact .nil
  | cons hxy _ ih => exact List.rel_append (hstep _ _ hxy) ih

mutual

theorem jsonTexts_missed : ∀ j, ∀ x ∈ jsonTexts false j, x.1 = false
  | .str s, x, hx => by
      rw [jsonTexts] at hx
      rw [List.mem_singleton.1 hx]
  | .arr items, x, hx => by
      rw [jsonTexts] at hx
      exact itemTexts_missed items x hx
  | .obj members, x, hx => by
      rw [jsonTexts] at hx
      exact memberTexts_missed members x hx
  | .null, x, hx | .bool _, x, hx | .num _, x, hx => by
      rw [jsonTexts] at hx
      · cases hx
      all_goals simp

theorem itemTexts_missed : ∀ items, ∀ x ∈ itemTexts items, x.1 = false
  | [], x, hx => by
      rw [itemTexts] at hx
      cases hx
  | item :: rest, x, hx => by
      rw [itemTexts] at hx
      rcases List.mem_append.1 hx with hx | hx
      · exact jsonTexts_missed item x hx
      · exact itemTexts_missed rest x hx

theorem memberTexts_missed : ∀ members, ∀ x ∈ memberTexts false members, x.1 = false
  | [], x, hx => by
      rw [memberTexts] at hx
      cases hx
  | (key, value) :: rest, x, hx => by
      rw [memberTexts] at hx
      rcases List.mem_append.1 hx with hx | hx
      · rcases List.mem_cons.1 hx with rfl | hx
        · rfl
        · exact jsonTexts_missed value x hx
      · exact memberTexts_missed rest x hx

end

theorem documentTexts_missed (m : Document) : ∀ x ∈ documentTexts false m, x.1 = false := by
  intro x hx
  obtain ⟨⟨key, value⟩, -, hx⟩ := List.mem_flatMap.1 hx
  rcases List.mem_cons.1 hx with rfl | hx
  · rfl
  · cases value with
    | none => cases hx
    | some v => exact jsonTexts_missed v.json x hx

mutual

theorem interpolateJson_received {key : String} : ∀ {j j' : Json},
    interpolateJson resolve key j = .ok j' →
      List.Forall₂ (Received resolve) (jsonTexts true j) (jsonTexts true j')
  | .str s, j', h => by
      rw [interpolateJson] at h
      obtain ⟨s', hs, h⟩ := bind_eq_ok.1 h
      obtain rfl := Except.ok.inj h
      rw [jsonTexts, jsonTexts]
      exact .cons ⟨key, hs⟩ .nil
  | .obj members, j', h => by
      rw [interpolateJson] at h
      obtain ⟨members', hmembers, h⟩ := bind_eq_ok.1 h
      obtain rfl := Except.ok.inj h
      rw [jsonTexts, jsonTexts]
      exact interpolateMembers_received hmembers
  | .arr items, j', h => by
      rw [interpolateJson] at h
      · obtain rfl := Except.ok.inj h
        rw [jsonTexts]
        exact received_refl (itemTexts_missed items)
      all_goals simp
  | .null, j', h | .bool _, j', h | .num _, j', h => by
      rw [interpolateJson] at h
      · obtain rfl := Except.ok.inj h
        rw [jsonTexts]
        · exact .nil
        all_goals simp
      all_goals simp

theorem interpolateMembers_received : ∀ {members members' : List (String × Json)},
    interpolateMembers resolve members = .ok members' →
      List.Forall₂ (Received resolve) (memberTexts true members) (memberTexts true members')
  | [], members', h => by
      rw [interpolateMembers] at h
      obtain rfl := Except.ok.inj h
      rw [memberTexts]
      exact .nil
  | (key, value) :: rest, members', h => by
      rw [interpolateMembers] at h
      obtain ⟨v, hv, h⟩ := bind_eq_ok.1 h
      obtain ⟨vs, hvs, h⟩ := bind_eq_ok.1 h
      obtain rfl := Except.ok.inj h
      rw [memberTexts, memberTexts]
      exact List.rel_append (.cons (received_missed key) (interpolateJson_received hv))
        (interpolateMembers_received hvs)

end

theorem interpolateAny_json {key : String} {v v' : AnyValue}
    (h : interpolateAny resolve key v = .ok v') : interpolateJson resolve key v.json = .ok v'.json := by
  unfold interpolateAny at h
  split at h
  next j hj =>
    obtain rfl := Except.ok.inj h
    exact hj
  next e herror => cases h

theorem interpolateEntry_received {x y : String × Option AnyValue}
    (h : y.1 = x.1 ∧ interpolateEntry resolve x.1 x.2 = .ok y.2) :
    List.Forall₂ (Received resolve) (entryTexts true x) (entryTexts true y) := by
  obtain ⟨key, value⟩ := x
  obtain ⟨key', value'⟩ := y
  obtain ⟨rfl, h⟩ := h
  refine .cons (received_missed _) ?_
  cases value with
  | none =>
      obtain rfl := Except.ok.inj h
      exact .nil
  | some v =>
      obtain ⟨v', hv, h⟩ := bind_eq_ok.1 h
      obtain rfl := Except.ok.inj h
      exact interpolateJson_received (interpolateAny_json hv)

theorem interpolateValue_received {key : String} {v v' : ConfigValue}
    (h : interpolateValue resolve key v = .ok v') :
    List.Forall₂ (Received resolve) v.texts v'.texts := by
  cases v with
  | string s =>
      obtain ⟨s', hs, h⟩ := bind_eq_ok.1 h
      obtain rfl := Except.ok.inj h
      exact .cons ⟨key, hs⟩ .nil
  | document m =>
      obtain ⟨m', hm, h⟩ := bind_eq_ok.1 h
      obtain rfl := Except.ok.inj h
      exact received_flatMap (traverse_ok hm) fun _ _ => interpolateEntry_received
  | any v =>
      obtain ⟨v', hv, h⟩ := bind_eq_ok.1 h
      obtain rfl := Except.ok.inj h
      exact interpolateJson_received (interpolateAny_json hv)
  | strings m =>
      obtain rfl := Except.ok.inj h
      refine received_refl fun x hx => ?_
      obtain ⟨e, -, hx⟩ := List.mem_flatMap.1 hx
      rcases List.mem_pair.1 hx with rfl | rfl <;> rfl
  | documents ms =>
      obtain rfl := Except.ok.inj h
      refine received_refl fun x hx => ?_
      obtain ⟨m, -, hx⟩ := List.mem_flatMap.1 hx
      exact documentTexts_missed _ x hx
  | nil | int _ | bool _ =>
      obtain rfl := Except.ok.inj h
      exact .nil

/-- **What an executor receives** of each text of its configuration. -/
theorem interpolateTestConfig_received {config received : Config}
    (h : interpolateTestConfig resolve config = .ok received) :
    List.Forall₂ (Received resolve) config.texts received.texts := by
  refine received_flatMap (traverse_ok h) ?_
  rintro ⟨key, value⟩ ⟨key', value'⟩ ⟨rfl, hvalue⟩
  exact .cons (received_missed _) (interpolateValue_received hvalue)

/-- **What a container receives** of each text of its configuration. -/
theorem interpolateService_received {cfg received : ServiceConfig}
    (h : interpolateService resolve cfg = .ok received) :
    List.Forall₂ (Received resolve) cfg.texts received.texts := by
  obtain ⟨env, henv, h⟩ := bind_eq_ok.1 h
  obtain rfl := Except.ok.inj h
  have hcommand : ∀ xs : List String,
      List.Forall₂ (Received resolve) (xs.map fun s => (false, s)) (xs.map fun s => (false, s)) := by
    intro xs
    refine received_refl fun x hx => ?_
    obtain ⟨s, -, rfl⟩ := List.mem_map.1 hx
    rfl
  refine List.rel_append (List.rel_append ?_ (hcommand cfg.command)) (hcommand cfg.initScripts)
  refine received_flatMap (traverse_ok henv) ?_
  rintro ⟨key, value⟩ ⟨key', value'⟩ ⟨rfl, hvalue⟩
  exact .cons (received_missed _) (.cons ⟨_, hvalue⟩ .nil)

/-- Every text is received with its references replaced. -/
def Complete (resolve : String → Except String String) (texts received : Texts) : Prop :=
  List.Forall₂ (fun x y => Replaced resolve x.2 y.2) texts received

/-- The references of a text that is reached can be replaced one after another as well as at once,
    and those of another text are not there, or stand for themselves. -/
def Replaceable (resolve : String → Except String String) (x : Bool × String) : Prop :=
  if x.1 then
    replaceInTurn (valueOf resolve) (referencesOf x.2) x.2 = simultaneous (valueOf resolve) x.2
  else Replaced resolve x.2 x.2

theorem Received.replaced_iff {x y : Bool × String} (h : Received resolve x y) :
    Replaced resolve x.2 y.2 ↔ Replaceable resolve x := by
  obtain ⟨reached, text⟩ := x
  cases reached with
  | false =>
      have hsame : y.2 = text := h
      rw [hsame]
      rfl
  | true =>
      obtain ⟨key, hkey⟩ : ∃ key, interpolateText resolve key text = .ok y.2 := h
      have hresult := interpolateRefs_ok hkey
      refine ⟨fun hreplaced => hresult.symm.trans hreplaced.value, fun hreplaceable => ?_⟩
      exact ⟨interpolateRefs_resolved hkey, hresult.trans hreplaceable⟩

theorem complete_iff {xs ys : Texts} (h : List.Forall₂ (Received resolve) xs ys) :
    Complete resolve xs ys ↔ ∀ x ∈ xs, Replaceable resolve x := by
  induction h with
  | nil =>
      constructor
      · intro _ x hx
        cases hx
      · exact fun _ => List.Forall₂.nil
  | @cons x y xs ys hxy _ ih =>
      rw [Complete, List.forall₂_cons, List.forall_mem_cons]
      exact and_congr hxy.replaced_iff ih

end Received

/-! ## When every reference can be resolved -/

section Total

variable {resolve : String → Except String String} (value : String → String)

/-- Every reference has a value. -/
abbrev resolving (value : String → String) : String → Except String String :=
  fun varRef => .ok (value varRef)

theorem interpolateText_total (key text : String) :
    interpolateText (resolving value) key text
      = .ok (replaceInTurn value (referencesOf text) text) := interpolateRefs_total _ _

mutual

theorem interpolateJson_total (key : String) : ∀ j : Json,
    ∃ j', interpolateJson (resolving value) key j = .ok j'
  | .str s => by
      rw [interpolateJson, interpolateText_total]
      exact ⟨_, rfl⟩
  | .obj members => by
      obtain ⟨members', hmembers⟩ := interpolateMembers_total members
      rw [interpolateJson, hmembers]
      exact ⟨_, rfl⟩
  | .arr items => ⟨.arr items, by rw [interpolateJson] <;> simp⟩
  | .null => ⟨.null, by rw [interpolateJson] <;> simp⟩
  | .bool b => ⟨.bool b, by rw [interpolateJson] <;> simp⟩
  | .num n => ⟨.num n, by rw [interpolateJson] <;> simp⟩

theorem interpolateMembers_total : ∀ members : List (String × Json),
    ∃ members', interpolateMembers (resolving value) members = .ok members'
  | [] => ⟨[], by rw [interpolateMembers]⟩
  | (key, v) :: rest => by
      obtain ⟨v', hv⟩ := interpolateJson_total key v
      obtain ⟨rest', hrest⟩ := interpolateMembers_total rest
      rw [interpolateMembers, hv, hrest]
      exact ⟨_, rfl⟩

end

theorem interpolateAny_total (key : String) (v : AnyValue) :
    ∃ v', interpolateAny (resolving value) key v = .ok v' := by
  obtain ⟨j, hj⟩ := interpolateJson_total value key v.json
  unfold interpolateAny
  split
  next j' hj' => exact ⟨_, rfl⟩
  next e herror => cases hj.symm.trans herror

theorem interpolateEntry_total (key : String) (v : Option AnyValue) :
    ∃ v', interpolateEntry (resolving value) key v = .ok v' := by
  cases v with
  | none => exact ⟨none, rfl⟩
  | some v =>
      obtain ⟨v', hv⟩ := interpolateAny_total value key v
      rw [interpolateEntry, hv]
      exact ⟨_, rfl⟩

theorem interpolateValue_total (key : String) (v : ConfigValue) :
    ∃ v', interpolateValue (resolving value) key v = .ok v' := by
  cases v with
  | string s =>
      rw [interpolateValue, interpolateText_total]
      exact ⟨_, rfl⟩
  | document m =>
      obtain ⟨m', hm⟩ := traverse_total (interpolateEntry_total value) m
      rw [interpolateValue, hm]
      exact ⟨_, rfl⟩
  | any v =>
      obtain ⟨v', hv⟩ := interpolateAny_total value key v
      rw [interpolateValue, hv]
      exact ⟨_, rfl⟩
  | nil | int _ | bool _ | strings _ | documents _ => exact ⟨_, rfl⟩

theorem interpolateTestConfig_total (config : Config) :
    ∃ received, interpolateTestConfig (resolving value) config = .ok received :=
  traverse_total (interpolateValue_total value) config

theorem interpolateService_total (cfg : ServiceConfig) :
    ∃ received, interpolateService (resolving value) cfg = .ok received := by
  obtain ⟨env, henv⟩ := traverse_total
    (fun key text => ⟨_, interpolateText_total value key text⟩) cfg.env
  rw [interpolateService, henv]
  exact ⟨_, rfl⟩

end Total

/-! ## Texts that are replaceable -/

section Replaceable

variable {resolve : String → Except String String} {text : String} {x : Bool × String}

theorem replaced_of_nil (h : referencesOf text = []) : Replaced resolve text text := by
  refine ⟨by simp [h], ?_⟩
  have hone : (referencesOf text).length ≤ 1 := by simp [h]
  rw [← replaceInTurn_single (valueOf resolve) hone, h]
  rfl

theorem replaceable_of_undisturbed (h : Undisturbed (valueOf resolve) text) :
    Replaceable resolve (true, text) := replaceInTurn_of_undisturbed h

/-- A text with few references is replaceable. -/
theorem replaceable_of_length (h : (referencesOf x.2).length ≤ if x.1 then 1 else 0) :
    Replaceable resolve x := by
  obtain ⟨reached, text⟩ := x
  cases reached with
  | true => exact replaceInTurn_single _ h
  | false => exact replaced_of_nil (List.length_eq_zero_iff.1 (Nat.le_zero.1 h))

/-- **Whatever the values**, a text that is reached is replaceable exactly when it has at most one
    reference, and another one when it has none. -/
theorem replaceable_iff (x : Bool × String) :
    (∀ value, Replaceable (resolving value) x) ↔
      (referencesOf x.2).length ≤ if x.1 then 1 else 0 := by
  refine ⟨fun hall => ?_, fun h _ => replaceable_of_length h⟩
  obtain ⟨reached, text⟩ := x
  cases reached with
  | true =>
      by_contra hmany
      obtain ⟨value, hdisturbed⟩ := exists_disturbing hmany
      exact hdisturbed (hall value)
  | false =>
      refine Nat.le_zero.2 (List.length_eq_zero_iff.2 ?_)
      by_contra hrefs
      obtain ⟨varRef, hvarRef⟩ := List.exists_mem_of_ne_nil _ hrefs
      -- a value that is longer than the text
      let value : String → String := fun _ =>
        String.ofList (List.replicate (text.toList.length + 1) 'a')
      have hreplaced : Replaced (resolving value) text text := hall value
      have hinfix : (value varRef).toList <:+: (simultaneous value text).toList :=
        infix_simultaneous hvarRef
      have hsame : simultaneous value text = text := hreplaced.value.symm
      have hlength := hinfix.length_le
      rw [hsame, String.toList_ofList, List.length_replicate] at hlength
      omega

end Replaceable

/-! ## Substitution -/

/-- Wherever a configuration has the text in the interpolation's reach, its references are replaced
    at once. -/
def SubstitutedIn (resolve : String → Except String String) (text : String)
    (config received : Config) : Prop :=
  ∀ p ∈ config.texts.zip received.texts, p.1 = (true, text) →
    p.2.2 = simultaneous (valueOf resolve) text

theorem substitutedIn_of_text {resolve : String → Except String String} {text : String}
    {config received : Config}
    (htext : ∀ key result, interpolateText resolve key text = .ok result →
      result = simultaneous (valueOf resolve) text)
    (h : interpolateTestConfig resolve config = .ok received) :
    SubstitutedIn resolve text config received := by
  intro p hp hreached
  have hreceived := List.forall₂_zip (interpolateTestConfig_received h) hp
  rw [hreached] at hreceived
  obtain ⟨key, hkey⟩ := hreceived
  exact htext key _ hkey

/-- A configuration of one text. -/
def Config.ofText (key text : String) : Config := ⟨[(key, .string text)], List.pairwise_singleton _ _⟩

theorem interpolateTestConfig_ofText {resolve : String → Except String String}
    {key text result : String} (h : interpolateText resolve key text = .ok result) :
    ∃ received, interpolateTestConfig resolve (Config.ofText key text) = .ok received ∧
      received.texts = [(false, key), (true, result)] := by
  have hentries : mapEntries (interpolateValue resolve) (Config.ofText key text).entries
      = .ok [(key, .string result)] := by
    rw [Config.ofText, mapEntries, interpolateValue, h]
    rfl
  obtain ⟨received, hreceived, heq⟩ := traverse_of_mapEntries hentries
  refine ⟨received, hreceived, ?_⟩
  rw [Config.texts, heq]
  rfl

/-- **Interpolation is a simultaneous substitution, whatever the values, exactly in the texts that
    have at most one reference.** With given values it is one when the text of each reference stands,
    in the partly substituted text, only where the reference does. -/
theorem interpolation_simultaneous (text : String) :
    ((∀ resolve config received, interpolateTestConfig resolve config = .ok received →
        SubstitutedIn resolve text config received) ↔ (referencesOf text).length ≤ 1) ∧
      (∀ resolve config received, interpolateTestConfig resolve config = .ok received →
        Undisturbed (valueOf resolve) text → SubstitutedIn resolve text config received) ∧
      ∀ registry key result, interpolateEnvVar registry key text = .ok result →
        (referencesOf text).length ≤ 1 ∨ Undisturbed (valueOf (resolveReference registry)) text →
          result = simultaneous (valueOf (resolveReference registry)) text := by
  refine ⟨?_, ?_, ?_⟩
  · constructor
    · intro hall
      refine (interpolation_simultaneous_iff text).1 fun resolve key result hresult => ?_
      obtain ⟨received, hreceived, htexts⟩ := interpolateTestConfig_ofText hresult
      have hsubst := hall resolve _ _ hreceived ((true, text), (true, result))
      rw [htexts] at hsubst
      exact hsubst (by simp [Config.texts, Config.ofText, ConfigValue.texts]) rfl
    · intro hone resolve config received h
      exact substitutedIn_of_text
        (fun key result => (interpolation_simultaneous_iff text).2 hone resolve key result) h
  · intro resolve config received h hundisturbed
    refine substitutedIn_of_text (fun key result hresult => ?_) h
    rw [interpolateRefs_ok hresult, replaceInTurn_of_undisturbed hundisturbed]
  · intro registry key result h hcond
    rw [interpolateEnvVar_eq] at h
    rcases hcond with hone | hundisturbed
    · exact (interpolation_simultaneous_iff text).2 hone _ _ _ h
    · rw [interpolateRefs_ok h, replaceInTurn_of_undisturbed hundisturbed]

/-- The password of a database ends like a reference to its user. -/
def credentials : RuntimeRegistry :=
  GoMap.ofList
    [("db",
      { name := "db", host := "db", mappedPorts := .empty
        envVars := GoMap.ofList [("USER", "root"), ("PASSWORD", "$\x7bdb.env.USER\x7d")] })]

theorem substituted_again :
    ¬ ∀ registry key text result, interpolateEnvVar registry key text = .ok result →
      result = simultaneous (valueOf (resolveReference registry)) text := by
  intro hall
  have heq := hall credentials "URL" "$\x7bdb.env.PASSWORD\x7d:$\x7bdb.env.USER\x7d" "root:root"
    (by decide +kernel)
  revert heq
  decide +kernel

/-! ## Completeness -/

/-- The executor configurations of a scenario's tests, before the interpolation. -/
def Bundle.testConfigs (b : Bundle) (scenario : BundleScenario) : List Config :=
  (orderedTests scenario).map fun testDef =>
    buildTestConfig testDef (testDef.targetServices.head?.getD "")
      (expandScenarioServiceSubset b.serviceGraph scenario.tests)

/-- A text that is reached has at most one reference, and another one has none. -/
def Texts.Single (texts : Texts) : Prop :=
  ∀ x ∈ texts, (referencesOf x.2).length ≤ if x.1 then 1 else 0

/-- **Interpolation is complete for a scenario**, whatever the values, exactly when no list, map of
    texts, key, command or init script has a reference and no other text has two. With given values,
    a text that is not reached has to be its own substitution, and in one that is reached the
    references have to be replaced one after another as they are at once, as they are when none of
    them is disturbed. -/
theorem interpolation_complete (b : Bundle) (scenario : BundleScenario) :
    ((∀ resolve,
        (∀ config ∈ b.testConfigs scenario, ∀ received,
          interpolateTestConfig resolve config = .ok received →
            Complete resolve config.texts received.texts) ∧
        ∀ cfg ∈ scenarioServices b scenario, ∀ received,
          interpolateService resolve cfg = .ok received →
            Complete resolve cfg.texts received.texts) ↔
      (∀ config ∈ b.testConfigs scenario, config.texts.Single) ∧
        ∀ cfg ∈ scenarioServices b scenario, cfg.texts.Single) ∧
    ∀ resolve,
      (∀ config received, interpolateTestConfig resolve config = .ok received →
        (Complete resolve config.texts received.texts ↔ ∀ x ∈ config.texts, Replaceable resolve x)) ∧
      (∀ cfg received, interpolateService resolve cfg = .ok received →
        (Complete resolve cfg.texts received.texts ↔ ∀ x ∈ cfg.texts, Replaceable resolve x)) ∧
      ∀ text, Undisturbed (valueOf resolve) text → Replaceable resolve (true, text) := by
  refine ⟨⟨?_, ?_⟩, fun resolve => ⟨?_, ?_, fun _ => replaceable_of_undisturbed⟩⟩
  · intro hall
    refine ⟨fun config hconfig x hx => ?_, fun cfg hcfg x hx => ?_⟩
    · refine (replaceable_iff x).1 fun value => ?_
      obtain ⟨received, hreceived⟩ := interpolateTestConfig_total value config
      exact (complete_iff (interpolateTestConfig_received hreceived)).1
        ((hall (resolving value)).1 config hconfig received hreceived) x hx
    · refine (replaceable_iff x).1 fun value => ?_
      obtain ⟨received, hreceived⟩ := interpolateService_total value cfg
      exact (complete_iff (interpolateService_received hreceived)).1
        ((hall (resolving value)).2 cfg hcfg received hreceived) x hx
  · rintro ⟨htests, hservices⟩ resolve
    refine ⟨fun config hconfig received h => ?_, fun cfg hcfg received h => ?_⟩
    · exact (complete_iff (interpolateTestConfig_received h)).2
        fun x hx => replaceable_of_length (htests config hconfig x hx)
    · exact (complete_iff (interpolateService_received h)).2
        fun x hx => replaceable_of_length (hservices cfg hcfg x hx)
  · exact fun config received h => complete_iff (interpolateTestConfig_received h)
  · exact fun cfg received h => complete_iff (interpolateService_received h)

/-- A test sends a token of the api's environment in a header, and the api is started with its
    database as an argument. -/
def tokenBundle : Bundle :=
  { schemaVersion := 2
    kind := "cots.workflow-bundle"
    workflow :=
      { name := "shop"
        nodes :=
          [{ id := "n1"
             data :=
              { label := "API"
                service :=
                  { type := "generic", image := "api"
                    command := ["serve", "--db=$\x7bmain_db.host\x7d"] } } },
            { id := "n2", data := { label := "Main DB", service := { type := "postgres" } } }]
        edges := some
          [{ id := "e1", source := "n1", target := "n2"
             data := some { readiness := "source_requires_target" } }] }
    scenarios :=
      [{ name := "smoke"
         tests :=
          [{ id := "t1", name := "list", type := "http", targetServices := ["api"]
             httpConfig := some
              { method := "GET", path := "/items", port := "80", expectedStatus := 200
                headers := GoMap.ofList [("Authorization", "Bearer $\x7bapi.TOKEN\x7d")] } }]
         testOrder := ["t1"] }] }

/-- A text that is not reached and has another value is received with its reference. -/
theorem not_complete {value : String → String} {xs ys : Texts} {text : String}
    (h : List.Forall₂ (Received (resolving value)) xs ys) (hmem : (false, text) ∈ xs)
    (hvalue : simultaneous value text ≠ text) : ¬Complete (resolving value) xs ys := by
  intro hcomplete
  have hreplaced : Replaced (resolving value) text text := (complete_iff h).1 hcomplete _ hmem
  exact hvalue hreplaced.value.symm

theorem header_and_command_not_interpolated :
    (¬ ∀ b b' : Bundle, b.validate = .ok b' → ∀ scenario ∈ b'.scenarios, ∀ resolve,
        ∀ config ∈ b'.testConfigs scenario, ∀ received,
          interpolateTestConfig resolve config = .ok received →
            Complete resolve config.texts received.texts) ∧
      ¬ ∀ b b' : Bundle, b.validate = .ok b' → ∀ scenario ∈ b'.scenarios, ∀ resolve,
        ∀ cfg ∈ scenarioServices b' scenario, ∀ received,
          interpolateService resolve cfg = .ok received →
            Complete resolve cfg.texts received.texts := by
  have hmissed : (tokenBundle.validate.toOption.any fun b' => b'.scenarios.any fun scenario =>
      ((b'.testConfigs scenario).any fun config =>
        config.texts.contains (false, "Bearer $\x7bapi.TOKEN\x7d")) &&
      (scenarioServices b' scenario).any fun cfg =>
        cfg.texts.contains (false, "--db=$\x7bmain_db.host\x7d")) = true := by
    decide +kernel
  cases hb : tokenBundle.validate with
  | error e => rw [hb] at hmissed; cases hmissed
  | ok b' =>
      rw [hb] at hmissed
      obtain ⟨scenario, hscenario, hmissed⟩ := List.any_eq_true.1 hmissed
      rw [Bool.and_eq_true] at hmissed
      obtain ⟨htest, hservice⟩ := hmissed
      obtain ⟨config, hconfig, hheader⟩ := List.any_eq_true.1 htest
      obtain ⟨cfg, hcfg, hcommand⟩ := List.any_eq_true.1 hservice
      refine ⟨fun hall => ?_, fun hall => ?_⟩
      · obtain ⟨received, hreceived⟩ := interpolateTestConfig_total (fun _ => "secret") config
        exact not_complete (interpolateTestConfig_received hreceived)
          (List.contains_iff_mem.1 hheader) (by decide +kernel)
          (hall _ _ hb scenario hscenario _ config hconfig received hreceived)
      · obtain ⟨received, hreceived⟩ := interpolateService_total (fun _ => "main_db") cfg
        exact not_complete (interpolateService_received hreceived)
          (List.contains_iff_mem.1 hcommand) (by decide +kernel)
          (hall _ _ hb scenario hscenario _ cfg hcfg received hreceived)

end TokyoTester
