import TokyoTester.Library.Codec

set_option autoImplicit false

/-! # Which objects a struct is decoded from

A `Shape` says where a Go type holds structs of which kinds. Decoding binds the members of an object
to fields up to case, and a member that is repeated is decoded into the same field again: into the
same struct, and item by item into the same slice. `decodeInto` lists the objects whose members end
up in the decoded value, each with the place of the struct it was decoded into.

A check of the untyped value looks a member up by its exact name, where the last one counts
(`Accepts`). It has seen an object when every member on the way to it is spelled like its field and
is the last of its name; `decodeInto` marks these objects. -/

/-- Where structs are in a value. A struct that is not `nullable` is held in place. -/
inductive Shape (κ : Type) where
  | other
  | struct (kind : κ) (nullable : Bool) (fields : List (String × Shape κ))
  | slice (item : Shape κ)

namespace Shape

variable {κ : Type}

/-- A step to a part of a value. -/
inductive Step where
  | field (name : String)
  | item (index : Nat)
deriving DecidableEq, Repr

/-- An object that a struct was decoded from: the place and the kind of the struct, the object's
    member names, and whether the check has seen it. -/
structure Decoded (κ : Type) where
  location : List Step
  kind : κ
  members : List String
  seen : Bool
deriving Repr

/-! ## Decoding -/

/-- The field of a member: by its exact name, or else up to case. -/
def bindField (fields : List (String × Shape κ)) (name : String) : Option (String × Shape κ) :=
  (fields.find? fun f => f.1 = name).or
    (fields.find? fun f => Json.foldName f.1 = Json.foldName name)

/-- What is held at a place is dropped. -/
def clear (location : List Step) (found : List (Decoded κ)) : List (Decoded κ) :=
  found.filter fun d => !location.isPrefixOf d.location

/-- A slice keeps its first items. -/
def truncate (location : List Step) (length : Nat) (found : List (Decoded κ)) : List (Decoded κ) :=
  found.filter fun d => match d.location.drop location.length with
    | .item i :: _ => !location.isPrefixOf d.location || i < length
    | _ => true

mutual

/-- The objects that a place is decoded from, after those found before. -/
def decodeInto (location : List Step) (seen : Bool) :
    Shape κ → Json → List (Decoded κ) → List (Decoded κ)
  | .struct kind _ fields, .obj members, found =>
    decodeMembers location seen fields members
      (found ++ [⟨location, kind, members.map (·.1), seen⟩])
  | .struct _ nullable _, .null, found => if nullable then clear location found else found
  | .slice item, .arr items, found =>
    truncate location items.length (decodeItems location seen item 0 items found)
  | .slice _, .null, found => clear location found
  | _, _, found => found

def decodeItems (location : List Step) (seen : Bool) (item : Shape κ) (i : Nat) :
    List Json → List (Decoded κ) → List (Decoded κ)
  | [], found => found
  | v :: rest, found =>
    decodeItems location seen item (i + 1) rest
      (decodeInto (location ++ [.item i]) seen item v found)

def decodeMembers (location : List Step) (seen : Bool) (fields : List (String × Shape κ)) :
    List (String × Json) → List (Decoded κ) → List (Decoded κ)
  | [], found => found
  | (name, v) :: rest, found =>
    decodeMembers location seen fields rest <|
      match bindField fields name with
      | some (field, shape) =>
        -- the untyped value holds the last member of an exact name
        let seen := seen && name = field && !(rest.any fun m => m.1 = name)
        decodeInto (location ++ [.field field]) seen shape v found
      | none => found

end

/-! ## The check of the untyped value -/

/-- The member of a name in a `map[string]any`. -/
def lastMember (name : String) : List (String × Json) → Option Json
  | [] => none
  | (k, v) :: rest => (lastMember name rest).or (if k = name then some v else none)

mutual

/-- The objects that are reached by exact names have allowed members. -/
def Accepts (allows : κ → List String → Prop) : Shape κ → Json → Prop
  | .struct kind _ fields, .obj members =>
    allows kind (members.map (·.1)) ∧ AcceptsFields allows fields members
  | .slice item, .arr items => ∀ v ∈ items, Accepts allows item v
  | _, _ => True

def AcceptsFields (allows : κ → List String → Prop) :
    List (String × Shape κ) → List (String × Json) → Prop
  | [], _ => True
  | (name, shape) :: rest, members =>
    (∀ v, lastMember name members = some v → Accepts allows shape v) ∧
      AcceptsFields allows rest members

end

/-! ## What the check has seen -/

variable {allows : κ → List String → Prop}

theorem bindField_mem {fields : List (String × Shape κ)} {name : String} {f : String × Shape κ}
    (h : bindField fields name = some f) : f ∈ fields := by
  unfold bindField at h
  rcases Option.or_eq_some_iff.1 h with h | ⟨-, h⟩
  · exact List.mem_of_find?_eq_some h
  · exact List.mem_of_find?_eq_some h

theorem acceptsFields_mem {fields : List (String × Shape κ)} {members : List (String × Json)}
    (h : AcceptsFields allows fields members) {name : String} {shape : Shape κ} {v : Json}
    (hmem : (name, shape) ∈ fields) (hv : lastMember name members = some v) :
    Accepts allows shape v := by
  induction fields with
  | nil => cases hmem
  | cons f rest ih =>
      obtain ⟨hfirst, hrest⟩ := h
      rcases List.mem_cons.1 hmem with rfl | hmem
      · exact hfirst v hv
      · exact ih hrest hmem

theorem lastMember_cons {name k : String} {v w : Json} {rest : List (String × Json)}
    (h : lastMember name rest = some w) : lastMember name ((k, v) :: rest) = some w := by
  rw [lastMember, h]
  rfl

theorem lastMember_eq_none {name : String} {members : List (String × Json)}
    (h : members.any (fun m => m.1 = name) = false) : lastMember name members = none := by
  induction members with
  | nil => rfl
  | cons m rest ih =>
      simp only [List.any_cons, Bool.or_eq_false_iff, decide_eq_false_iff_not] at h
      rw [lastMember, ih h.2, if_neg h.1]
      rfl

/-- The objects that were seen have allowed members. -/
def SeenAllowed (allows : κ → List String → Prop) (found : List (Decoded κ)) : Prop :=
  ∀ d ∈ found, d.seen = true → allows d.kind d.members

theorem SeenAllowed.filter {found : List (Decoded κ)} {p : Decoded κ → Bool}
    (h : SeenAllowed allows found) : SeenAllowed allows (found.filter p) :=
  fun d hd => h d (List.mem_of_mem_filter hd)

mutual

/-- **The check speaks for what it has seen**: when it accepts the value at a place that it has
    seen, the objects it has seen below have allowed members. -/
theorem decodeInto_seen (location : List Step) (seen : Bool) (shape : Shape κ) :
    ∀ (j : Json) (found : List (Decoded κ)), (seen = true → Accepts allows shape j) →
      SeenAllowed allows found → SeenAllowed allows (decodeInto location seen shape j found) := by
  intro j found haccepts hfound
  cases shape with
  | other =>
      unfold decodeInto
      exact hfound
  | struct kind nullable fields =>
      cases j with
      | obj members =>
          unfold decodeInto
          refine decodeMembers_seen location seen fields members _ ?_ ?_
          · intro hseen
            have h := haccepts hseen
            unfold Accepts at h
            exact fun name shape v hmem hv => acceptsFields_mem h.2 hmem hv
          · intro d hd hdseen
            rcases List.mem_append.1 hd with hd | hd
            · exact hfound d hd hdseen
            · obtain rfl := List.mem_singleton.1 hd
              have h := haccepts hdseen
              unfold Accepts at h
              exact h.1
      -- a null drops what is below it, which a filter of the findings does
      | null =>
          unfold decodeInto
          split_ifs
          · exact hfound.filter
          · exact hfound
      | _ =>
          unfold decodeInto
          exact hfound
  | slice item =>
      cases j with
      | arr items =>
          unfold decodeInto
          refine SeenAllowed.filter (decodeItems_seen location seen item 0 items found ?_ hfound)
          intro hseen
          have h := haccepts hseen
          unfold Accepts at h
          exact h
      | null =>
          unfold decodeInto
          exact hfound.filter
      | _ =>
          unfold decodeInto
          exact hfound

theorem decodeItems_seen (location : List Step) (seen : Bool) (item : Shape κ) (i : Nat) :
    ∀ (items : List Json) (found : List (Decoded κ)),
      (seen = true → ∀ v ∈ items, Accepts allows item v) → SeenAllowed allows found →
      SeenAllowed allows (decodeItems location seen item i items found)
  | [], _, _, hfound => hfound
  | v :: rest, found, haccepts, hfound => by
      unfold decodeItems
      refine decodeItems_seen location seen item (i + 1) rest _ ?_ ?_
      · exact fun hseen w hw => haccepts hseen w (List.mem_cons_of_mem _ hw)
      · exact decodeInto_seen _ seen item v found
          (fun hseen => haccepts hseen v List.mem_cons_self) hfound

theorem decodeMembers_seen (location : List Step) (seen : Bool) (fields : List (String × Shape κ)) :
    ∀ (members : List (String × Json)) (found : List (Decoded κ)),
      (seen = true → ∀ name shape v, (name, shape) ∈ fields →
        lastMember name members = some v → Accepts allows shape v) →
      SeenAllowed allows found →
      SeenAllowed allows (decodeMembers location seen fields members found)
  | [], _, _, hfound => hfound
  | (k, v) :: rest, found, haccepts, hfound => by
      unfold decodeMembers
      refine decodeMembers_seen location seen fields rest _ ?_ ?_
      · exact fun hseen name shape w hmem hw =>
          haccepts hseen name shape w hmem (lastMember_cons hw)
      · split
        · rename_i field shape hbind
          refine decodeInto_seen _ _ shape v found ?_ hfound
          intro hseen
          -- the member is spelled like its field, and no later one is
          simp only [Bool.and_eq_true, decide_eq_true_eq, Bool.not_eq_true'] at hseen
          obtain ⟨⟨hseen, rfl⟩, hlast⟩ := hseen
          refine haccepts hseen k shape v (bindField_mem hbind) ?_
          rw [lastMember, lastMember_eq_none hlast, if_pos rfl]
          rfl
        · exact hfound

end

end Shape
