import TokyoTester.Bundle.Definition
import TokyoTester.Library.Text

set_option autoImplicit false

/-! # Images (`pkg/registry/resolver.go`)

A service names its image, and its registry configuration the host that the image is pulled from.
The two are put together before the pull. Whether an image names a registry itself is guessed from
its first component; the parser that later splits the result goes by the reference grammar. -/

namespace TokyoTester

open Text

/-! ## Hosts (`net`, `unicode`) -/

/-- What is used of Go's tables and of its address parser. -/
structure Hosts where
  /-- `unicode.IsLetter`. -/
  isLetter : Char → Bool
  /-- `unicode.IsDigit`. -/
  isDigit : Char → Bool
  /-- `net.ParseIP(host) != nil`. -/
  isIP : String → Bool

/-- `net.SplitHostPort`, on characters. Its errors are not told apart. -/
def splitHostPortChars (cs : List Char) : Option (List Char × List Char) :=
  match cs with
  | '[' :: rest =>
    let after := rest.dropWhile (· ≠ ']')
    match after.tail with
    | ':' :: port =>
      if port.contains ':' || rest.contains '[' || port.contains ']' then none
      else some (rest.takeWhile (· ≠ ']'), port)
    | _ => none
  | cs =>
    let host := cs.takeWhile (· ≠ ':')
    match cs.dropWhile (· ≠ ':') with
    | [] => none
    | _ :: port =>
      if port.contains ':' || cs.contains '[' || cs.contains ']' then none else some (host, port)

def splitHostPort (hostport : String) : Option (String × String) :=
  (splitHostPortChars hostport.toList).map fun (host, port) =>
    (String.ofList host, String.ofList port)

/-- `net.JoinHostPort`. -/
def bracketHostPort (host port : String) : String :=
  if host.toList.contains ':' then "[" ++ host ++ "]:" ++ port else host ++ ":" ++ port

section Resolver

variable (lib : Hosts)

/-- The length of a text in bytes. -/
def byteLength (cs : List Char) : Nat := (cs.map Char.utf8Size).sum

def validRegistryLabel (label : List Char) : Bool :=
  !label.isEmpty && byteLength label ≤ 63 && label.head? ≠ some '-' && label.getLast? ≠ some '-' &&
    label.all fun char => char = '-' || lib.isLetter char || lib.isDigit char

def validRegistryHostname (host : String) : Bool :=
  host = "localhost" || lib.isIP host ||
    (host ≠ "" && byteLength host.toList ≤ 253 &&
      (splitAt '.' host.toList).all (validRegistryLabel lib))

/-- The host and the port in the address of a registry; without a port that is empty. -/
def registryHostPort (value : String) : Except String (String × String) :=
  let colons := value.toList.count ':'
  if hasPrefix value "[" || colons = 1 then
    match splitHostPort value with
    | some (host, port) => .ok (host, port)
    | none => if contains value ":" then .error "registry port is invalid" else .ok (value, "")
  else if 1 < colons then .error "IPv6 registry hosts must include a port and use brackets"
  else .ok (value, "")

/-- `NormalizeRegistryHost`. -/
def normalizeRegistryHost (value : String) : Except String String := do
  let value := trimSpace value
  if value = "" then .error "registry host is required"
  else if contains value "://" || value.toList.any fun c => "/?#@".toList.contains c then
    .error "registry host must contain only a hostname and optional port"
  else
    let (host, port) ← registryHostPort value
    let host := toLower (trimSpace host)
    if !validRegistryHostname lib host then .error "registry hostname is invalid"
    else if port = "" then .ok host
    else
      match atoi port with
      | some portNumber =>
        if portNumber < 1 || 65535 < portNumber then
          .error "registry port must be between 1 and 65535"
        else .ok (bracketHostPort host port)
      | none => .error "registry port must be between 1 and 65535"

/-! ## References to images -/

/-- What stands before the first slash. -/
def firstComponent (image : String) : String := String.ofList (image.toList.takeWhile (· ≠ '/'))

/-- `strings.TrimPrefix(image, "/")`. -/
def trimSlash (image : String) : String :=
  if hasPrefix image "/" then String.ofList (image.toList.drop 1) else image

/-- `hasExplicitRegistry`. -/
def hasExplicitRegistry (image : String) : Bool :=
  let first := firstComponent image
  first = "localhost" || contains first "." || contains first ":" || hasPrefix first "["

/-- `reference.ParseNormalizedNamed`, as far as it fails. -/
abbrev ReferenceParser := String → Except String Unit

variable (parse : ReferenceParser)

/-- `ResolveImageNameChecked`. -/
def resolveImageNameChecked (imageName : String) (reg : Option RegistryConfig) :
    Except String String := do
  let imageName := trimSpace imageName
  let parsed (resolved : String) : Except String String := do
    (parse resolved).mapError fun e => "invalid container image " ++ quote resolved ++ ": " ++ e
    .ok resolved
  if imageName = "" then .error "container image is required"
  else
    match reg.filter fun reg => !blank reg.url with
    | none => parsed imageName
    | some reg =>
      let registryHost ← normalizeRegistryHost lib reg.url
      if contains imageName "://" then .error "container image must not include a URL scheme"
      else if hasExplicitRegistry imageName then
        let imageRegistry ← (normalizeRegistryHost lib (firstComponent imageName)).mapError fun e =>
          "invalid image registry: " ++ e
        if imageRegistry ≠ registryHost then
          .error ("image registry " ++ quote imageRegistry ++
            " does not match configured registry " ++ quote registryHost)
        else parsed imageName
      else parsed (registryHost ++ "/" ++ trimSlash imageName)

end Resolver

/-! ## The reference grammar -/

/-- A part of a reference is a domain when it has a dot or a colon, or is `localhost`. -/
def isDomain (part : String) : Bool := part = "localhost" || contains part "." || contains part ":"

/-- The domain that a reference begins with. -/
def explicitDomain (image : String) : Option String :=
  if image.toList.contains '/' && isDomain (firstComponent image) then some (firstComponent image)
  else none

/-- The registry that the parser finds in a reference. -/
def registryDomain (image : String) : String := (explicitDomain image).getD "docker.io"

/-- What every reference is: it has no blanks around it, no scheme and no slash in front. -/
def PlainReference (image : String) : Prop :=
  image ≠ "" ∧ trimSpace image = image ∧ contains image "://" = false ∧ hasPrefix image "/" = false

/-! ## The configured host -/

section Host

variable {lib : Hosts}

/-- No part of the text is a path. -/
def NoSlash (s : String) : Prop := '/' ∉ s.toList

theorem NoSlash.trimSpace {s : String} (h : NoSlash s) : NoSlash (Text.trimSpace s) := by
  intro hmem
  obtain ⟨pre, post, heq, -, -⟩ := trim_spec isSpace s.toList
  rw [Text.trimSpace, String.toList_ofList] at hmem
  refine h ?_
  rw [heq]
  exact List.mem_append_left _ (List.mem_append_right _ hmem)

theorem NoSlash.toLower {s : String} (h : NoSlash s) : NoSlash (Text.toLower s) := by
  intro hmem
  rw [Text.toLower, String.toList_ofList] at hmem
  obtain ⟨c, hc, hslash⟩ := List.mem_map.1 hmem
  exact h (lowerChar_eq_slash hslash ▸ hc)

theorem NoSlash.append {s t : String} (hs : NoSlash s) (ht : NoSlash t) : NoSlash (s ++ t) := by
  intro hmem
  rw [String.toList_append] at hmem
  exact (List.mem_append.1 hmem).elim hs ht

theorem mem_splitHostPortChars {cs host port : List Char}
    (h : splitHostPortChars cs = some (host, port)) : ∀ c, c ∈ host ∨ c ∈ port → c ∈ cs := by
  unfold splitHostPortChars at h
  split at h
  next rest =>
    dsimp only at h
    split at h
    next p hafter =>
      split_ifs at h
      obtain ⟨rfl, rfl⟩ := Prod.mk.inj (Option.some.inj h)
      rintro c (hc | hc)
      · exact List.mem_cons_of_mem _ (List.takeWhile_sublist _ |>.mem hc)
      · have htail : c ∈ (rest.dropWhile (· ≠ ']')).tail := by
          rw [hafter]
          exact List.mem_cons_of_mem _ hc
        exact List.mem_cons_of_mem _ ((List.dropWhile_sublist _).mem (List.mem_of_mem_tail htail))
    next => cases h
  next =>
    dsimp only at h
    split at h
    next => cases h
    next p hdrop =>
      split_ifs at h
      obtain ⟨rfl, rfl⟩ := Prod.mk.inj (Option.some.inj h)
      rintro c (hc | hc)
      · exact (List.takeWhile_sublist _).mem hc
      · refine (List.dropWhile_sublist (· ≠ ':')).mem ?_
        rw [hdrop]
        exact List.mem_cons_of_mem _ hc

theorem splitHostPort_noSlash {value host port : String} (hvalue : NoSlash value)
    (h : splitHostPort value = some (host, port)) : NoSlash host ∧ NoSlash port := by
  obtain ⟨⟨host, port⟩, hchars, heq⟩ := Option.map_eq_some_iff.1 h
  obtain ⟨rfl, rfl⟩ := Prod.mk.inj heq
  have hmem := mem_splitHostPortChars hchars '/'
  constructor
  · exact fun hslash => hvalue (hmem (.inl (by rwa [String.toList_ofList] at hslash)))
  · exact fun hslash => hvalue (hmem (.inr (by rwa [String.toList_ofList] at hslash)))

theorem registryHostPort_noSlash {value : String} {parts : String × String} (hvalue : NoSlash value)
    (h : registryHostPort value = .ok parts) : NoSlash parts.1 ∧ NoSlash parts.2 := by
  have hwhole : NoSlash value ∧ NoSlash "" := ⟨hvalue, by unfold NoSlash; decide⟩
  unfold registryHostPort at h
  dsimp only at h
  cases hsplit : splitHostPort value with
  | some found =>
      rw [hsplit] at h
      dsimp only at h
      split_ifs at h
      · exact Except.ok.inj h ▸ splitHostPort_noSlash hvalue hsplit
      · exact Except.ok.inj h ▸ hwhole
  | none =>
      rw [hsplit] at h
      dsimp only at h
      split_ifs at h
      · exact Except.ok.inj h ▸ hwhole
      · exact Except.ok.inj h ▸ hwhole

theorem NoSlash.bracketHostPort {host port : String} (hhost : NoSlash host) (hport : NoSlash port) :
    NoSlash (TokyoTester.bracketHostPort host port) := by
  have hcolon : NoSlash ":" := by unfold NoSlash; decide
  have hopen : NoSlash "[" := by unfold NoSlash; decide
  have hclose : NoSlash "]:" := by unfold NoSlash; decide
  unfold TokyoTester.bracketHostPort
  split_ifs
  · exact ((hopen.append hhost).append hclose).append hport
  · exact (hhost.append hcolon).append hport

/-- **A configured host is given, and has no path.** -/
theorem normalizeRegistryHost_ok {value h : String} (hok : normalizeRegistryHost lib value = .ok h) :
    trimSpace value ≠ "" ∧ NoSlash h := by
  unfold normalizeRegistryHost at hok
  dsimp only at hok
  split_ifs at hok with hempty hpath
  refine ⟨hempty, ?_⟩
  have hvalue : NoSlash (trimSpace value) := by
    intro hslash
    refine hpath (Bool.or_eq_true_iff.2 (.inr ?_))
    exact List.any_eq_true.2 ⟨'/', hslash, by decide⟩
  cases hparts : registryHostPort (trimSpace value) with
  | error e => rw [hparts] at hok; cases hok
  | ok parts =>
      obtain ⟨hhost, hport⟩ := registryHostPort_noSlash hvalue hparts
      obtain ⟨host, port⟩ := parts
      rw [hparts] at hok
      have hlower := hhost.trimSpace.toLower
      simp only [bind, Except.bind] at hok
      split_ifs at hok
      · exact Except.ok.inj hok ▸ hlower
      · split at hok
        next n hn =>
          split_ifs at hok
          exact Except.ok.inj hok ▸ hlower.bracketHostPort hport
        next => cases hok

end Host

/-! ## The image that is pulled -/

section Resolved

variable {lib : Hosts} {parse : ReferenceParser} {reg : RegistryConfig} {image h r : String}

theorem trimSpace_of_blank {s : String} (hblank : blank s = true) : trimSpace s = "" := by
  have hall : ∀ c ∈ s.toList, isSpace c = true := List.all_eq_true.1 hblank
  have hdrop : s.toList.dropWhile isSpace = [] := List.dropWhile_eq_nil_iff.2 hall
  rw [trimSpace, trim, hdrop]
  rfl

/-- What `ResolveImageNameChecked` returns, and when. -/
theorem resolve_eq_ok (hh : normalizeRegistryHost lib reg.url = .ok h) :
    resolveImageNameChecked lib parse image (some reg) = .ok r ↔
      (trimSpace image ≠ "" ∧ contains (trimSpace image) "://" = false ∧ parse r = .ok ()) ∧
        (hasExplicitRegistry (trimSpace image) = true ∧
            normalizeRegistryHost lib (firstComponent (trimSpace image)) = .ok h ∧
              r = trimSpace image ∨
          hasExplicitRegistry (trimSpace image) = false ∧
            r = h ++ "/" ++ trimSlash (trimSpace image)) := by
  -- a host that normalizes is not blank
  have hgiven : (some reg).filter (fun reg => !blank reg.url) = some reg := by
    refine Option.filter_eq_some_iff.2 ⟨rfl, ?_⟩
    cases hblank : blank reg.url with
    | false => rfl
    | true => exact absurd (trimSpace_of_blank hblank) (normalizeRegistryHost_ok hh).1
  have hparsed : ∀ resolved : String,
      (((parse resolved).mapError fun e => "invalid container image " ++ quote resolved ++ ": " ++ e) >>=
        fun _ => Except.ok resolved) = .ok r ↔ parse r = .ok () ∧ r = resolved := by
    intro resolved
    cases hparse : parse resolved with
    | error e =>
        constructor
        · intro herror
          cases herror
        · rintro ⟨hok, rfl⟩
          cases hparse.symm.trans hok
    | ok u =>
        constructor
        · intro hok
          obtain rfl := Except.ok.inj hok
          exact ⟨hparse, rfl⟩
        · rintro ⟨-, rfl⟩
          rfl
  unfold resolveImageNameChecked
  simp only [hgiven, hh]
  by_cases hempty : trimSpace image = ""
  · simp [hempty]
  · by_cases hscheme : contains (trimSpace image) "://" = true
    · simp [hempty, hscheme, bind, Except.bind]
    · rw [if_neg hempty]
      simp only [bind, Except.bind] at hparsed ⊢
      rw [if_neg hscheme]
      have hfalse : contains (trimSpace image) "://" = false := Bool.not_eq_true _ ▸ hscheme
      -- an image that names a registry has to name this one; any other is qualified with it
      cases hexplicit : hasExplicitRegistry (trimSpace image) with
      | false =>
          simp only [Bool.false_eq_true, if_false]
          rw [hparsed]
          constructor
          · rintro ⟨hparse, heq⟩
            exact ⟨⟨hempty, hfalse, hparse⟩, .inr ⟨trivial, heq⟩⟩
          · rintro ⟨⟨-, -, hparse⟩, ⟨hfalse, -⟩ | ⟨-, heq⟩⟩
            · cases hfalse
            · exact ⟨hparse, heq⟩
      | true =>
          simp only [if_true]
          cases hfirst : normalizeRegistryHost lib (firstComponent (trimSpace image)) with
          | error e =>
              constructor
              · intro herror
                cases herror
              · rintro ⟨-, ⟨-, herror, -⟩ | ⟨hfalse, -⟩⟩
                · cases herror
                · cases hfalse
          | ok host =>
              simp only [Except.mapError]
              by_cases hsame : host = h
              · rw [if_neg (not_not.2 hsame)]
                refine (hparsed (trimSpace image)).trans ?_
                constructor
                · rintro ⟨hparse, heq⟩
                  exact ⟨⟨hempty, hfalse, hparse⟩, .inl ⟨trivial, by rw [hsame], heq⟩⟩
                · rintro ⟨⟨-, -, hparse⟩, ⟨-, -, heq⟩ | ⟨hfalse, -⟩⟩
                  · exact ⟨hparse, heq⟩
                  · cases hfalse
              · rw [if_pos hsame]
                constructor
                · intro herror
                  cases herror
                · rintro ⟨-, ⟨-, hhost, -⟩ | ⟨hfalse, -⟩⟩
                  · exact absurd (Except.ok.inj hhost) hsame
                  · cases hfalse

theorem length_trim_le (p : Char → Bool) (cs : List Char) : (trim p cs).length ≤ cs.length := by
  obtain ⟨pre, post, heq, -, -⟩ := trim_spec p cs
  have hlength := congrArg List.length heq
  rw [List.length_append, List.length_append] at hlength
  omega

/-- Nothing that is no longer than an image is the image behind a host. -/
theorem ne_qualified {s : String} (hs : s.toList.length ≤ image.toList.length) :
    s ≠ h ++ "/" ++ image := by
  rintro rfl
  rw [String.toList_append, String.toList_append, List.length_append, List.length_append] at hs
  have hone : "/".toList.length = 1 := rfl
  omega

theorem trimSlash_qualified_iff :
    h ++ "/" ++ image = h ++ "/" ++ trimSlash (trimSpace image) ↔
      trimSpace image = image ∧ hasPrefix image "/" = false := by
  have hcancel : h ++ "/" ++ image = h ++ "/" ++ trimSlash (trimSpace image) ↔
      image = trimSlash (trimSpace image) := by
    constructor
    · intro heq
      have hchars : (h ++ "/").toList ++ image.toList
          = (h ++ "/").toList ++ (trimSlash (trimSpace image)).toList := by
        rw [← String.toList_append, ← String.toList_append, heq]
      exact String.toList_inj.1 (List.append_cancel_left hchars)
    · exact fun heq => by rw [← heq]
  have htrimmed := length_trim_le isSpace image.toList
  have htoList : (trimSpace image).toList = trim isSpace image.toList := String.toList_ofList
  rw [hcancel]
  unfold trimSlash
  constructor
  · intro heq
    have hlength := congrArg (fun s : String => s.toList.length) heq
    by_cases hslash : hasPrefix (trimSpace image) "/" = true
    · -- the slash is missing in what is left
      rw [if_pos hslash] at hlength
      simp only [String.toList_ofList, List.length_drop] at hlength
      have hnonempty : (trimSpace image).toList ≠ [] := by
        intro hnil
        rw [hasPrefix, hnil] at hslash
        cases hslash
      have hpos := List.length_pos_iff.2 hnonempty
      rw [htoList] at hlength hpos
      omega
    · rw [if_neg hslash] at heq
      refine ⟨heq.symm, ?_⟩
      rw [← heq] at hslash
      simpa using hslash
  · rintro ⟨htrim, hslash⟩
    rw [htrim, hslash]
    rfl

/-- **The domain of an image behind a host without a path** is the host, if that is a domain. -/
theorem registryDomain_qualified (hslash : NoSlash h) (rest : String) :
    registryDomain (h ++ "/" ++ rest) = if isDomain h then h else "docker.io" := by
  have hchars : (h ++ "/" ++ rest).toList = h.toList ++ '/' :: rest.toList := by
    rw [String.toList_append, String.toList_append, List.append_assoc]
    rfl
  have hall : ∀ c ∈ h.toList, decide (c ≠ '/') = true := by
    intro c hc
    exact decide_eq_true fun heq => hslash (heq ▸ hc)
  have hfirst : firstComponent (h ++ "/" ++ rest) = h := by
    rw [firstComponent, hchars, List.takeWhile_append_of_pos hall]
    simp
  have hcontains : (h ++ "/" ++ rest).toList.contains '/' = true := by
    rw [hchars]
    simp
  rw [registryDomain, explicitDomain, hfirst, hcontains, Bool.true_and]
  split_ifs <;> rfl

/-- "docker.io" is a domain. -/
theorem registryDomain_eq_iff (hslash : NoSlash h) (rest : String) :
    registryDomain (h ++ "/" ++ rest) = h ↔ isDomain h = true := by
  rw [registryDomain_qualified hslash]
  by_cases hdomain : isDomain h = true
  · simp [hdomain]
  · rw [if_neg hdomain]
    refine ⟨fun heq => absurd ?_ hdomain, fun htrue => absurd htrue hdomain⟩
    rw [← heq]
    decide

/-- **Images come from the configured registry** in exactly these cases. An image without a domain is
    put behind the host when it is a plain reference that is not taken to name a registry, and the
    parser accepts the result. What is returned is of the host when the image names just that, or is
    not taken to name a registry and the host is a domain. -/
theorem resolve_registry (hh : normalizeRegistryHost lib reg.url = .ok h) :
    (explicitDomain image = none →
      (resolveImageNameChecked lib parse image (some reg) = .ok (h ++ "/" ++ image) ↔
        PlainReference image ∧ hasExplicitRegistry image = false ∧
          parse (h ++ "/" ++ image) = .ok ())) ∧
    ∀ r, resolveImageNameChecked lib parse image (some reg) = .ok r →
      (registryDomain r = h ↔
        if hasExplicitRegistry (trimSpace image) then registryDomain (trimSpace image) = h
        else isDomain h = true) := by
  have hslash := (normalizeRegistryHost_ok hh).2
  refine ⟨fun _ => ?_, fun r hr => ?_⟩
  · rw [resolve_eq_ok hh]
    constructor
    · rintro ⟨⟨hempty, hscheme, hparse⟩, ⟨-, -, heq⟩ | ⟨hexplicit, heq⟩⟩
      · refine absurd heq.symm (ne_qualified ?_)
        rw [trimSpace, String.toList_ofList]
        exact length_trim_le _ _
      · obtain ⟨htrim, hfirst⟩ := trimSlash_qualified_iff.1 heq
        rw [htrim] at hempty hscheme hexplicit
        exact ⟨⟨hempty, htrim, hscheme, hfirst⟩, hexplicit, hparse⟩
    · rintro ⟨⟨hempty, htrim, hscheme, hfirst⟩, hexplicit, hparse⟩
      have heq := trimSlash_qualified_iff (h := h) |>.2 ⟨htrim, hfirst⟩
      rw [htrim] at heq ⊢
      exact ⟨⟨hempty, hscheme, hparse⟩, .inr ⟨hexplicit, heq⟩⟩
  · obtain ⟨-, ⟨hexplicit, -, heq⟩ | ⟨hexplicit, heq⟩⟩ := (resolve_eq_ok hh).1 hr
    · rw [if_pos hexplicit, heq]
    · rw [if_neg (Bool.eq_false_iff.1 hexplicit), heq, registryDomain_eq_iff hslash]

end Resolved

/-- Letters and digits of ASCII, and no addresses. -/
def asciiHosts : Hosts := { isLetter := Char.isAlpha, isDigit := Char.isDigit, isIP := fun _ => false }

theorem resolve_registry_team :
    resolveImageNameChecked asciiHosts (fun _ => .ok ()) "team/api:v1" (some { url := "ghcr.io" })
        = .ok "ghcr.io/team/api:v1" ∧
      registryDomain "ghcr.io/team/api:v1" = "ghcr.io" := by
  have hspec := @resolve_registry asciiHosts (fun _ => .ok ()) { url := "ghcr.io" } "team/api:v1"
    "ghcr.io" (by decide +kernel)
  have hresolved := (hspec.1 (by decide +kernel)).2
    ⟨⟨by decide, by decide +kernel, by decide +kernel, by decide +kernel⟩, by decide +kernel, rfl⟩
  exact ⟨hresolved, (hspec.2 _ hresolved).2 (by decide +kernel)⟩

/-- An image with a tag and no slash is refused, and a host without a dot is not a registry in what is
    returned. -/
theorem registry_mistaken :
    (¬ ∀ (lib : Hosts) (parse : ReferenceParser) (reg : RegistryConfig) (image h : String),
        normalizeRegistryHost lib reg.url = .ok h → parse image = .ok () →
          explicitDomain image = none →
            resolveImageNameChecked lib parse image (some reg) = .ok (h ++ "/" ++ image)) ∧
      ¬ ∀ (lib : Hosts) (parse : ReferenceParser) (reg : RegistryConfig) (image h r : String),
        normalizeRegistryHost lib reg.url = .ok h → parse image = .ok () →
          resolveImageNameChecked lib parse image (some reg) = .ok r → registryDomain r = h := by
  constructor
  · intro hall
    have hresolved := hall asciiHosts (fun _ => .ok ()) { url := "ghcr.io" } "redis:7" "ghcr.io"
      (by decide +kernel) rfl (by decide +kernel)
    revert hresolved
    decide +kernel
  · intro hall
    have hdomain := hall asciiHosts (fun _ => .ok ()) { url := "registry" } "api" "registry"
      "registry/api" (by decide +kernel) rfl (by decide +kernel)
    revert hdomain
    decide +kernel

end TokyoTester
