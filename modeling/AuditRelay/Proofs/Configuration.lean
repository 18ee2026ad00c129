import Mathlib.Data.List.DropRight
import Mathlib.Data.List.Forall2
import AuditRelay.Nats.Config

/-!
# What a client makes of an endpoint

The configuration of a client follows from an endpoint and from settings (`Nats.Config.Follows`);
the only thing that can go wrong is that nobody knows the mechanism that the credentials ask for.

* A mechanism is a word typed by hand: `Text.name_respelled` says that neither the blanks around it
  nor the case of its letters matter, of any script and for any text. It rests on
  `Text.trim_upperAscii`: no letter of either case is a blank. `Text.trim_spec` says what is left of
  a text without the blanks around it.
* `Nats.Auth.Ways` lists what a mechanism makes of a name and a password, and
  `Nats.Config.Discreet` what of them never reaches a configuration.
-/

namespace AuditRelay

/-! ### Letter case -/

namespace Text

theorem toNat_toUpper (c : Char) :
    c.toUpper.toNat = if 97 ≤ c.toNat ∧ c.toNat ≤ 122 then c.toNat - 32 else c.toNat := by
  have hsmall : 'a'.val ≤ c.val ∧ c.val ≤ 'z'.val ↔ 97 ≤ c.toNat ∧ c.toNat ≤ 122 := Iff.rfl
  unfold Char.toUpper
  split
  · next small =>
    have bounds := hsmall.mp small
    rw [if_pos bounds]
    change (c.val + ('A'.val - 'a'.val)).toNat = c.val.toNat - 32
    change 97 ≤ c.val.toNat ∧ c.val.toNat ≤ 122 at bounds
    -- the difference of the letters is negative, so the sum runs over once
    rw [UInt32.toNat_add, show ('A'.val - 'a'.val).toNat = 2 ^ 32 - 32 from rfl]
    omega
  · next other => rw [if_neg (hsmall.not.mp other)]

theorem toNat_toLower (c : Char) :
    c.toLower.toNat = if 65 ≤ c.toNat ∧ c.toNat ≤ 90 then c.toNat + 32 else c.toNat := by
  have hcapital : c.val ≥ 'A'.val ∧ c.val ≤ 'Z'.val ↔ 65 ≤ c.toNat ∧ c.toNat ≤ 90 := Iff.rfl
  unfold Char.toLower
  split
  · next capital =>
    have bounds := hcapital.mp capital
    rw [if_pos bounds]
    change (c.val + ('a'.val - 'A'.val)).toNat = c.val.toNat + 32
    change 65 ≤ c.val.toNat ∧ c.val.toNat ≤ 90 at bounds
    rw [UInt32.toNat_add, show ('a'.val - 'A'.val).toNat = 32 from rfl]
    omega
  · next other => rw [if_neg (hcapital.not.mp other)]

/-- No letter of either case is a blank. -/
theorem isBlank_toUpper (c : Char) : isBlank c.toUpper = isBlank c := by
  unfold isBlank
  rw [toNat_toUpper]
  split
  · next small =>
    rw [Bool.eq_iff_iff]
    simp only [Bool.or_eq_true, Bool.and_eq_true, decide_eq_true_eq, beq_iff_eq]
    omega
  · rfl

theorem toUpper_toUpper (c : Char) : c.toUpper.toUpper = c.toUpper := by
  refine Char.toNat_inj.mp ?_
  rw [toNat_toUpper c.toUpper, toNat_toUpper c]
  repeat' split
  all_goals omega

theorem toUpper_toLower (c : Char) : c.toLower.toUpper = c.toUpper := by
  refine Char.toNat_inj.mp ?_
  rw [toNat_toUpper c.toLower, toNat_toUpper c, toNat_toLower c]
  repeat' split
  all_goals omega

/-- The letters of the second text are those of the first, each in either case. -/
def Recased (s t : String) : Prop :=
  List.Forall₂ (fun c d => d = c ∨ d = c.toUpper ∨ d = c.toLower) s.toList t.toList

theorem Recased.refl (s : String) : Recased s s :=
  List.forall₂_same.mpr fun _ _ => Or.inl rfl

/-- In upper case both texts are one. -/
theorem Recased.upperAscii {s t : String} (recased : Recased s t) :
    upperAscii t = upperAscii s := by
  unfold Recased at recased
  unfold Text.upperAscii
  refine congrArg String.ofList ?_
  -- by induction on the pairs of letters
  generalize s.toList = cs, t.toList = ds at recased ⊢
  induction recased with
  | nil => rfl
  | @cons c d cs ds hcd rest ih =>
    have head : d.toUpper = c.toUpper := by
      rcases hcd with rfl | rfl | rfl
      · rfl
      · exact toUpper_toUpper c
      · exact toUpper_toLower c
    rw [List.map_cons, List.map_cons, head, ih]

/-! ### Blanks around a word -/

/-- Nothing but blanks. -/
def Blanks (s : String) : Prop :=
  ∀ c ∈ s.toList, isBlank c = true

/-- Drops the blanks at both ends. -/
def strip (l : List Char) : List Char :=
  (l.dropWhile isBlank).rdropWhile isBlank

theorem trim_eq (s : String) : trim s = String.ofList (strip s.toList) := rfl

/-- Blanks in front are dropped, and so are blanks at the end, whatever is between them. -/
theorem strip_surrounded {before after : List Char} (l : List Char)
    (hbefore : ∀ c ∈ before, isBlank c = true) (hafter : ∀ c ∈ after, isBlank c = true) :
    strip (before ++ l ++ after) = strip l := by
  have nothing : after.dropWhile isBlank = [] := List.dropWhile_eq_nil_iff.mpr hafter
  unfold strip
  rw [List.append_assoc, List.dropWhile_append_of_pos hbefore, List.dropWhile_append]
  split
  -- a word of nothing but blanks leaves nothing
  · next empty => rw [nothing, List.isEmpty_iff.mp empty]
  · unfold List.rdropWhile
    rw [List.reverse_append, List.dropWhile_append_of_pos]
    exact fun c hc => hafter c (List.mem_reverse.mp hc)

theorem trim_surrounded {before after : String} (s : String) (hbefore : Blanks before)
    (hafter : Blanks after) : trim (before ++ s ++ after) = trim s := by
  rw [trim_eq, trim_eq, String.toList_append, String.toList_append,
    strip_surrounded _ hbefore hafter]

/-- What is left of a text begins and ends with what is no blank, and only blanks were dropped. -/
theorem trim_spec (s : String) :
    ∃ before after, s = before ++ trim s ++ after ∧ Blanks before ∧ Blanks after ∧
      (∀ c, (trim s).toList.head? = some c → isBlank c = false) ∧
      (∀ c, (trim s).toList.getLast? = some c → isBlank c = false) := by
  let front := s.toList.takeWhile isBlank
  let rest := s.toList.dropWhile isBlank
  let back := (rest.reverse.takeWhile isBlank).reverse
  have hrest : strip s.toList ++ back = rest :=
    calc strip s.toList ++ back
        = (rest.reverse.takeWhile isBlank ++ rest.reverse.dropWhile isBlank).reverse :=
          List.reverse_append.symm
      _ = rest := by rw [List.takeWhile_append_dropWhile, List.reverse_reverse]
  refine ⟨String.ofList front, String.ofList back, ?_, fun c hc => ?_, fun c hc => ?_,
    fun c hc => ?_, fun c hc => ?_⟩
  · rw [trim_eq, ← String.ofList_append, ← String.ofList_append, List.append_assoc, hrest,
      List.takeWhile_append_dropWhile, String.ofList_toList]
  · rw [String.toList_ofList] at hc
    exact List.mem_takeWhile_imp hc
  · rw [String.toList_ofList] at hc
    exact List.mem_takeWhile_imp (List.mem_reverse.mp hc)
  -- what is left begins where the rest begins
  · rw [trim_eq, String.toList_ofList] at hc
    have hfirst : rest.head? = some c := by
      rw [← hrest, List.head?_append, hc]
      rfl
    have hnot := List.head?_dropWhile_not isBlank s.toList
    rw [show s.toList.dropWhile isBlank = rest from rfl, hfirst] at hnot
    exact hnot
  · rw [trim_eq, String.toList_ofList] at hc
    have hnot := List.head?_dropWhile_not isBlank rest.reverse
    rw [← List.getLast?_reverse] at hnot
    rw [show (rest.reverse.dropWhile isBlank).reverse = strip s.toList from rfl, hc] at hnot
    exact hnot

/-- Letters can be put into upper case before the blanks are dropped. -/
theorem trim_upperAscii (s : String) : trim (upperAscii s) = upperAscii (trim s) := by
  have same : isBlank ∘ Char.toUpper = isBlank := funext isBlank_toUpper
  unfold trim upperAscii
  rw [String.toList_ofList, String.toList_ofList, List.dropWhile_map, same, ← List.map_reverse,
    List.dropWhile_map, same, List.map_reverse]

/-- **A word typed by hand** has one name, whatever blanks are around it and in whatever case its
letters are. -/
theorem name_respelled {before after s t : String} (hbefore : Blanks before)
    (hafter : Blanks after) (recased : Recased s t) :
    upperAscii (trim (before ++ t ++ after)) = upperAscii (trim s) :=
  calc upperAscii (trim (before ++ t ++ after))
      = upperAscii (trim t) := by rw [trim_surrounded t hbefore hafter]
    _ = trim (upperAscii t) := (trim_upperAscii t).symm
    _ = trim (upperAscii s) := by rw [recased.upperAscii]
    _ = upperAscii (trim s) := trim_upperAscii s

end Text

/-! ### Ways in -/

namespace Nats

namespace Auth

/-- The name of the mechanism that credentials ask for. -/
def name (c : Credentials) : String :=
  Text.upperAscii (Text.trim c.mechanism)

/-- The names of the mechanisms that a client has. -/
def names : List String := ["", "NONE", "PLAIN", "TOKEN", "NKEY"]

/-- **What a mechanism makes of a name and a password.** -/
structure Ways (c : Credentials) : Prop where
  anonymous : name c = "" ∨ name c = "NONE" → ofCredentials c = .ok .anonymous
  plain : name c = "PLAIN" → ofCredentials c = .ok (.userPassword c.username c.password)
  token : name c = "TOKEN" → ofCredentials c = .ok (.token c.password)
  key : name c = "NKEY" → ofCredentials c = .ok (.signingKey c.password)
  /-- Any other name is one that the client does not know. -/
  unknown : name c ∉ names →
    ofCredentials c = .error (.config ("unsupported auth mechanism '" ++ name c ++ "'"))

theorem ways (c : Credentials) : Ways c := by
  refine ⟨fun h => ?_, fun h => ?_, fun h => ?_, fun h => ?_, fun h => ?_⟩
  all_goals unfold name at h; unfold ofCredentials
  · rcases h with h | h <;> rw [h] <;> rfl
  · rw [h]; rfl
  · rw [h]; rfl
  · rw [h]; rfl
  · -- it is none of the names that the client looks for
    have other : ∀ w ∈ names, Text.upperAscii (Text.trim c.mechanism) ≠ w :=
      fun w known same => h (same ▸ known)
    unfold name
    split
    case h_6 => rfl
    all_goals next same => exact absurd same (other _ (by decide))

/-- A client is let in somehow if it knows the mechanism. -/
theorem Ways.exists_iff {c : Credentials} (ways : Ways c) :
    (∃ auth, ofCredentials c = .ok auth) ↔ name c ∈ names := by
  constructor
  · rintro ⟨auth, hauth⟩
    by_contra unknown
    rw [ways.unknown unknown] at hauth
    cases hauth
  · intro known
    simp only [names, List.mem_cons, List.not_mem_nil, or_false] at known
    rcases known with h | h | h | h | h
    · exact ⟨_, ways.anonymous (Or.inl h)⟩
    · exact ⟨_, ways.anonymous (Or.inr h)⟩
    · exact ⟨_, ways.plain h⟩
    · exact ⟨_, ways.token h⟩
    · exact ⟨_, ways.key h⟩

/-- The way in depends on the name of the mechanism, not on how it is spelled. -/
theorem ofCredentials_congr {c c' : Credentials} (named : name c' = name c)
    (username : c'.username = c.username) (password : c'.password = c.password) :
    ofCredentials c' = ofCredentials c := by
  unfold name at named
  unfold ofCredentials
  rw [named, username, password]

end Auth

namespace Config

variable {s : Settings} {e e' : Endpoint}

/-- **A configuration follows** from an endpoint and settings. A client has at least one permit. -/
structure Follows (e : Endpoint) (s : Settings) (c : Config) : Prop where
  auth : Auth.ofCredentials e.credentials = .ok c.auth
  url : c.url = e.address
  stream : c.stream = s.stream
  subjects : c.subjects = s.subjects
  replicas : c.replicas = s.replicas
  openRequests : c.openRequests = if s.openRequests = 0 then 1 else s.openRequests
  retries : c.retries = s.retries
  /-- Nothing else is said by either of them. -/
  rest : (c.backoff, c.connectTimeout, c.requestTimeout) = (100, 5, 10)

theorem follows_of_ofSettings {c : Config} (config : ofSettings e s = .ok c) : Follows e s c := by
  unfold ofSettings at config
  cases hauth : Auth.ofCredentials e.credentials with
  | error f =>
    rw [hauth] at config
    cases config
  | ok auth =>
    rw [hauth] at config
    cases config
    exact ⟨hauth, rfl, rfl, rfl, rfl, rfl, rfl, rfl⟩

theorem ofSettings_ok {auth : Auth} (there : Auth.ofCredentials e.credentials = .ok auth) :
    ∃ c, ofSettings e s = .ok c ∧ c.auth = auth := by
  unfold ofSettings
  rw [there]
  exact ⟨_, rfl, rfl⟩

theorem ofSettings_congr (address : e'.address = e.address)
    (auth : Auth.ofCredentials e'.credentials = Auth.ofCredentials e.credentials) :
    ofSettings e' s = ofSettings e s := by
  unfold ofSettings
  rw [auth, address]

/-- There is a configuration if there is a way in. -/
theorem exists_ofSettings_iff :
    (∃ c, ofSettings e s = .ok c) ↔ Auth.name e.credentials ∈ Auth.names := by
  rw [← (Auth.ways e.credentials).exists_iff]
  constructor
  · rintro ⟨c, hc⟩
    exact ⟨c.auth, (follows_of_ofSettings hc).auth⟩
  · rintro ⟨auth, hauth⟩
    obtain ⟨c, hc, -⟩ := ofSettings_ok hauth
    exact ⟨c, hc⟩

/-- **What a configuration keeps to itself**: without authentication it knows neither name nor
password, and with a token or a signing key it does not know the name. -/
structure Discreet (s : Settings) (e : Endpoint) : Prop where
  anonymous : Auth.name e.credentials = "" ∨ Auth.name e.credentials = "NONE" →
    ∃ c, c.auth = .anonymous ∧ ∀ user password,
      ofSettings { e with credentials := ⟨user, password, e.credentials.mechanism⟩ } s = .ok c
  token : Auth.name e.credentials = "TOKEN" →
    ∃ c, c.auth = .token e.credentials.password ∧ ∀ user,
      ofSettings { e with credentials := { e.credentials with username := user } } s = .ok c
  key : Auth.name e.credentials = "NKEY" →
    ∃ c, c.auth = .signingKey e.credentials.password ∧ ∀ user,
      ofSettings { e with credentials := { e.credentials with username := user } } s = .ok c

/-- What leads to one way in with any of some credentials leads to one configuration. -/
theorem exists_of_auth {α : Type} {auth : Auth} {credentials : α → Credentials} (a : α)
    (same : ∀ a, Auth.ofCredentials (credentials a) = .ok auth) (s : Settings) (e : Endpoint) :
    ∃ c, c.auth = auth ∧ ∀ a, ofSettings { e with credentials := credentials a } s = .ok c := by
  obtain ⟨c, hc, ha⟩ :=
    ofSettings_ok (s := s) (e := { e with credentials := credentials a }) (same a)
  refine ⟨c, ha, fun a' => ?_⟩
  rw [← hc]
  exact ofSettings_congr rfl ((same a').trans (same a).symm)

theorem discreet (s : Settings) (e : Endpoint) : Discreet s e where
  anonymous named := by
    let shown (c : String × String) : Credentials := ⟨c.1, c.2, e.credentials.mechanism⟩
    have same (c : String × String) : Auth.ofCredentials (shown c) = .ok .anonymous :=
      (Auth.ways (shown c)).anonymous named
    obtain ⟨c, ha, hc⟩ := exists_of_auth ("", "") same s e
    exact ⟨c, ha, fun user password => hc (user, password)⟩
  token named :=
    exists_of_auth "" (fun user => (Auth.ways { e.credentials with username := user }).token named)
      s e
  key named :=
    exists_of_auth "" (fun user => (Auth.ways { e.credentials with username := user }).key named)
      s e

end Config

end Nats

end AuditRelay
