import ProxmoxIaas.Terraform.Model
import Mathlib.Data.List.Forall2

/-!
# Secrets in the Log

`sanitize_for_logging` replaces the values of sensitive keys, and the password of a connection
URL in a string with one of three schemes. It looks at the entries of the dictionary that it is
given and not into their values, and its regular expression needs a user name and a password.

## Main results

- `maskPasswords_url`, `maskPasswords_url_of_no_user`: what the regular expression does with a URL.
- `plain_iff`: the values in which nothing is secret.
- `hides_iff`: when the sanitized dictionary does not depend on the secrets.
-/

namespace ProxmoxIaas.Terraform

/-! ### The sanitizer -/

/-- `SENSITIVE_KEYS`. -/
def sensitiveKeys : List (List Char) :=
  ["backend_conn_str", "password", "secret", "token", "api_key", "conn_str", "database_url",
    "db_password", "db_user", "auth", "credential", "private_key", "access_key", "secret_key",
    "session_token", "refresh_token", "api_secret", "encryption_key", "jwt_secret", "ssh_key",
    "ssl_key", "cert", "vcenter_password", "vc_password", "vsphere_password", "redis_url",
    "broker_url", "result_backend"].map String.toList

/-- A key that contains a sensitive one. -/
def isSensitive (key : List Char) : Bool :=
  sensitiveKeys.any fun sensitive => sensitive <:+: key.map Char.toLower

/-- The schemes that are looked for. -/
def markers : List (List Char) := ["postgresql://", "mysql://", "redis://"].map String.toList

/-- A text in which passwords are masked. -/
def isMarked (text : List Char) : Bool := markers.any fun marker => marker <:+: text

/-- A match of `://([^:]+):([^@]+)@` at the start of a text: its first group, and its length. -/
def matchPassword? : List Char → Option (List Char × ℕ)
  | ':' :: '/' :: '/' :: text =>
    let user := Text.before ':' text
    let password := Text.before '@' (text.drop (user.length + 1))
    if user ≠ [] ∧ ':' ∈ text ∧ password ≠ [] ∧ '@' ∈ text.drop (user.length + 1) then
      some (user, 3 + user.length + 1 + password.length + 1)
    else none
  | _ => none

/-- The substitution of `://\1:***@` for the matches. The characters of a match that are still to
be skipped are counted. -/
def maskFrom (skip : ℕ) : List Char → List Char
  | [] => []
  | c :: text =>
    if skip ≠ 0 then maskFrom (skip - 1) text
    else
      match matchPassword? (c :: text) with
      | some (user, length) => "://".toList ++ user ++ ":***@".toList ++ maskFrom (length - 1) text
      | none => c :: maskFrom 0 text

/-- `re.sub(r'://([^:]+):([^@]+)@', r'://\1:***@', text)`. -/
def maskPasswords (text : List Char) : List Char := maskFrom 0 text

/-- What is logged of an entry. -/
def sanitizeEntry (key : List Char) : Value → Value
  | .str text =>
    if isSensitive key then .str "***REDACTED***".toList
    else if isMarked text then .str (maskPasswords text)
    else .str text
  | value => if isSensitive key then .str "***REDACTED***".toList else value

/-- `sanitize_for_logging`. -/
def sanitizeForLogging (data : Dict) : Dict :=
  data.map fun entry => (entry.1, sanitizeEntry entry.1 entry.2)

/-! ### Secrets -/

/-- A connection URL in a text, up to the `@` after its password. -/
structure ConnectionUrl where
  /-- The text before `://`, with the scheme at its end. -/
  start : List Char
  /-- The user name. -/
  user : List Char
  /-- The password. -/
  password : List Char
  /-- The scheme ends at the first `://`. -/
  start_plain : ¬ "://".toList <:+: start
  /-- A user name has no colon. -/
  user_plain : ':' ∉ user
  /-- A password has no `@`. -/
  password_plain : '@' ∉ password

namespace ConnectionUrl

/-- The text before the password. -/
def left (url : ConnectionUrl) : List Char := url.start ++ "://".toList ++ url.user ++ [':']

/-- The same URL with another password. -/
def withPassword (url : ConnectionUrl) (password : List Char) (h : '@' ∉ password) :
    ConnectionUrl :=
  { url with password, password_plain := h }

end ConnectionUrl

/-- A text with some connection URLs, and what comes after the last one. -/
def urlText (urls : List ConnectionUrl) (tail : List Char) : List Char :=
  match urls with
  | [] => tail
  | url :: urls => url.left ++ url.password ++ '@' :: urlText urls tail

section Secrets

variable (allowed : List Char → Prop)

/-- URLs that differ in their passwords only, as far as these are allowed. -/
def SameUrl (url url' : ConnectionUrl) : Prop :=
  url.start = url'.start ∧ url.user = url'.user ∧ allowed url.password ∧ allowed url'.password

mutual

/-- Values that differ in secrets only: in the passwords of connection URLs, and under sensitive
keys. -/
inductive SameButSecrets : Value → Value → Prop
  | refl (value : Value) : SameButSecrets value value
  | url {urls urls' : List ConnectionUrl} (tail : List Char)
      (h : List.Forall₂ (SameUrl allowed) urls urls') :
      SameButSecrets (.str (urlText urls tail)) (.str (urlText urls' tail))
  | list {items items' : List Value} (h : SameItems items items') :
      SameButSecrets (.list items) (.list items')
  | dict {entries entries' : Dict} (h : SameEntries entries entries') :
      SameButSecrets (.dict entries) (.dict entries')

/-- Lists whose items differ in secrets only. -/
inductive SameItems : List Value → List Value → Prop
  | nil : SameItems [] []
  | cons {value value' : Value} {items items' : List Value} (h : SameButSecrets value value')
      (hitems : SameItems items items') : SameItems (value :: items) (value' :: items')

/-- Dictionaries with the same keys whose values differ in secrets only. -/
inductive SameEntries : Dict → Dict → Prop
  | nil : SameEntries [] []
  | sensitive {key : List Char} {value value' : Value} {entries entries' : Dict}
      (h : isSensitive key = true) (hentries : SameEntries entries entries') :
      SameEntries ((key, value) :: entries) ((key, value') :: entries')
  | cons {key : List Char} {value value' : Value} {entries entries' : Dict}
      (h : SameButSecrets value value') (hentries : SameEntries entries entries') :
      SameEntries ((key, value) :: entries) ((key, value') :: entries')

end

/-- The log does not tell dictionaries apart that differ in secrets only. -/
def Hides (data : Dict) : Prop :=
  ∀ data', SameEntries allowed data data' → sanitizeForLogging data' = sanitizeForLogging data

/-- A text in which there are connection URLs. -/
def HasUrls (text : List Char) (urls : List ConnectionUrl) (tail : List Char) : Prop :=
  text = urlText urls tail ∧ urls ≠ [] ∧ ∀ url ∈ urls, allowed url.password

mutual

/-- A value in which nothing is secret. -/
def Plain : Value → Prop
  | .str text => ∀ urls tail, ¬ HasUrls allowed text urls tail
  | .list items => PlainItems items
  | .dict entries => PlainEntries entries
  | .bool _ | .int _ | .float _ | .other _ => True

/-- A list in which nothing is secret. -/
def PlainItems : List Value → Prop
  | [] => True
  | value :: items => Plain value ∧ PlainItems items

/-- A dictionary in which nothing is secret. -/
def PlainEntries : Dict → Prop
  | [] => True
  | (key, value) :: entries => isSensitive key = false ∧ Plain value ∧ PlainEntries entries

end

/-- URLs that the regular expression finds, whatever their passwords: each has a user name, and a
scheme that is looked for is somewhere in the text. -/
def Masked (urls : List ConnectionUrl) (tail : List Char) : Prop :=
  (∀ url ∈ urls, url.user ≠ []) ∧
    ((∃ url ∈ urls, isMarked url.left = true) ∨ isMarked tail = true)

/-- A text whose connection URLs are found. -/
def Masks (value : Value) : Prop :=
  ∃ text, value = .str text ∧ ∀ urls tail, HasUrls allowed text urls tail → Masked urls tail

end Secrets

/-! ### The regular expression -/

/-- The characters to be skipped are dropped. -/
theorem maskFrom_eq (skip : ℕ) (text : List Char) :
    maskFrom skip text = maskPasswords (text.drop skip) := by
  induction text generalizing skip with
  | nil => simp [maskFrom, maskPasswords]
  | cons c text ih =>
    cases skip with
    | zero => rfl
    | succ skip =>
      rw [maskFrom, if_pos (Nat.succ_ne_zero skip), Nat.add_sub_cancel, ih, List.drop_succ_cons]

/-- A character that no match starts at is kept. -/
theorem maskPasswords_cons {c : Char} {text : List Char} (h : matchPassword? (c :: text) = none) :
    maskPasswords (c :: text) = c :: maskPasswords text := by
  rw [maskPasswords, maskFrom, if_neg (not_not_intro rfl), h]
  rfl

/-- A match is replaced. -/
theorem maskPasswords_of_match {c : Char} {text user : List Char} {length : ℕ}
    (h : matchPassword? (c :: text) = some (user, length)) :
    maskPasswords (c :: text) =
      "://".toList ++ user ++ ":***@".toList ++ maskPasswords (text.drop (length - 1)) := by
  rw [maskPasswords, maskFrom, if_neg (not_not_intro rfl), h]
  simp only [maskFrom_eq]

/-- A match starts with a colon. -/
theorem matchPassword?_of_ne {c : Char} {text : List Char} (h : c ≠ ':') :
    matchPassword? (c :: text) = none := by
  unfold matchPassword?
  split
  · exact absurd (List.cons.inj ‹_›).1 h
  · rfl

/-- A text without a colon is kept. -/
theorem maskPasswords_append {start text : List Char} (h : ':' ∉ start) :
    maskPasswords (start ++ text) = start ++ maskPasswords text := by
  induction start with
  | nil => rfl
  | cons c start ih =>
    rw [List.mem_cons, not_or] at h
    rw [List.cons_append, maskPasswords_cons (matchPassword?_of_ne (Ne.symm h.1)), ih h.2,
      List.cons_append]

/-- A match starts with a scheme. -/
theorem matchPassword?_eq_none {text : List Char} (h : ¬ "://".toList <+: text) :
    matchPassword? text = none := by
  unfold matchPassword?
  split
  · exact absurd ⟨_, rfl⟩ h
  · rfl

/-- What comes before the first `://` is kept. -/
theorem maskPasswords_start {start text : List Char} (h : ¬ "://".toList <:+: start) :
    maskPasswords (start ++ ':' :: text) = start ++ maskPasswords (':' :: text) := by
  induction start with
  | nil => rfl
  | cons c start ih =>
    have hrest := ih fun hinfix => h (List.infix_cons hinfix)
    rw [List.cons_append, maskPasswords_cons (matchPassword?_eq_none ?_), hrest,
      List.cons_append]
    -- a `://` here would reach into the next colon, or lie in what comes before it
    rintro ⟨rest, hprefix⟩
    have hlist : "://".toList = [':', '/', '/'] := rfl
    rw [hlist] at hprefix
    obtain ⟨rfl, hsecond⟩ := List.cons.inj hprefix
    cases start with
    | nil => exact absurd (List.cons.inj hsecond).1 (by decide)
    | cons c' start =>
      obtain ⟨rfl, hthird⟩ := List.cons.inj hsecond
      cases start with
      | nil => exact absurd (List.cons.inj hthird).1 (by decide)
      | cons c'' start =>
        obtain ⟨rfl, -⟩ := List.cons.inj hthird
        exact h ⟨[], start, rfl⟩

section Urls

variable {user password rest : List Char}

/-- What a text has before a separator. -/
theorem before_append {sep : Char} {text rest : List Char} (h : sep ∉ text) :
    Text.before sep (text ++ sep :: rest) = text := by
  rw [Text.before_append_cons, Text.before_of_not_mem h]

theorem drop_append_cons (c : Char) (text rest : List Char) :
    (text ++ c :: rest).drop (text.length + 1) = rest := by
  rw [List.drop_append, List.drop_of_length_le (Nat.le_succ _), Nat.add_sub_cancel_left]
  rfl

/-- The two groups at a URL. -/
theorem matchPassword?_url (huser : ':' ∉ user) (hpassword : '@' ∉ password) :
    matchPassword? (':' :: '/' :: '/' :: (user ++ ':' :: (password ++ '@' :: rest))) =
      if user ≠ [] ∧ password ≠ [] then
        some (user, 3 + user.length + 1 + password.length + 1)
      else none := by
  have hcolon : ':' ∈ user ++ ':' :: (password ++ '@' :: rest) := by simp
  have hat : '@' ∈ password ++ '@' :: rest := by simp
  rw [matchPassword?, before_append huser, drop_append_cons, before_append hpassword]
  simp only [hcolon, hat, true_and, and_true]

/-- A URL with a user name and a password is masked. -/
theorem maskPasswords_match (huser : ':' ∉ user) (hpassword : '@' ∉ password) (hu : user ≠ [])
    (hp : password ≠ []) :
    maskPasswords (':' :: '/' :: '/' :: (user ++ ':' :: (password ++ '@' :: rest))) =
      "://".toList ++ user ++ ":***@".toList ++ maskPasswords rest := by
  have hmatch := @matchPassword?_url user password rest huser hpassword
  rw [if_pos ⟨hu, hp⟩] at hmatch
  rw [maskPasswords_of_match hmatch]
  have hsplit : '/' :: '/' :: (user ++ ':' :: (password ++ '@' :: rest)) =
      ('/' :: '/' :: (user ++ ':' :: password)) ++ '@' :: rest := by simp
  have hlength : 3 + user.length + 1 + password.length + 1 - 1 =
      ('/' :: '/' :: (user ++ ':' :: password)).length + 1 := by
    simp only [List.length_cons, List.length_append]
    omega
  rw [hsplit, hlength, drop_append_cons]

/-- Otherwise the search goes on after it. -/
theorem maskPasswords_no_match (huser : ':' ∉ user) (hpassword : '@' ∉ password)
    (h : ¬ (user ≠ [] ∧ password ≠ [])) :
    maskPasswords (':' :: '/' :: '/' :: (user ++ ':' :: (password ++ '@' :: rest))) =
      "://".toList ++ user ++ maskPasswords (':' :: (password ++ '@' :: rest)) := by
  have hmatch := @matchPassword?_url user password rest huser hpassword
  rw [if_neg h] at hmatch
  rw [maskPasswords_cons hmatch, maskPasswords_cons (matchPassword?_of_ne (by decide)),
    maskPasswords_cons (matchPassword?_of_ne (by decide)), maskPasswords_append huser]
  rfl

/-- A colon with no slashes after it is kept. -/
theorem maskPasswords_colon {c : Char} {text : List Char} (h : c ≠ '/') :
    maskPasswords (':' :: c :: text) = ':' :: maskPasswords (c :: text) := by
  refine maskPasswords_cons ?_
  unfold matchPassword?
  split
  · exact absurd (List.cons.inj (List.cons.inj ‹_›).2).1 h
  · rfl

end Urls

section Texts

variable (url : ConnectionUrl) (rest : List Char)

theorem left_append : url.left ++ url.password ++ '@' :: rest =
    url.start ++ ':' :: '/' :: '/' :: (url.user ++ ':' :: (url.password ++ '@' :: rest)) := by
  simp [ConnectionUrl.left]

/-- A URL with a user name and a password is masked. -/
theorem maskPasswords_url (hu : url.user ≠ []) (hp : url.password ≠ []) :
    maskPasswords (url.left ++ url.password ++ '@' :: rest) =
      url.left ++ ("***@".toList ++ maskPasswords rest) := by
  rw [left_append, maskPasswords_start url.start_plain,
    maskPasswords_match url.user_plain url.password_plain hu hp]
  simp [ConnectionUrl.left]

/-- A URL without a user name, or without a password, is not. -/
theorem maskPasswords_url_of_not {c : Char} {text : List Char}
    (h : ¬ (url.user ≠ [] ∧ url.password ≠ [])) (hplain : ':' ∉ url.password)
    (hnext : url.password ++ '@' :: rest = c :: text) (hc : c ≠ '/') :
    maskPasswords (url.left ++ url.password ++ '@' :: rest) =
      url.left ++ (url.password ++ '@' :: maskPasswords rest) := by
  have hat : ':' ∉ url.password ++ ['@'] := by simp [hplain]
  have htail : maskPasswords (':' :: (url.password ++ '@' :: rest)) =
      ':' :: (url.password ++ '@' :: maskPasswords rest) := by
    have happend := @maskPasswords_append (url.password ++ ['@']) rest hat
    rw [List.append_assoc, List.append_assoc] at happend
    rw [hnext, maskPasswords_colon hc, ← hnext]
    exact congrArg (List.cons ':') happend
  rw [left_append, maskPasswords_start url.start_plain,
    maskPasswords_no_match url.user_plain url.password_plain h, htail]
  simp [ConnectionUrl.left]

end Texts

/-- The URLs of a text with one password. -/
def withPasswords (urls : List ConnectionUrl) (password : List Char) (h : '@' ∉ password) :
    List ConnectionUrl :=
  urls.map fun url => url.withPassword password h

/-! ### Markers -/

/-- A part of a text that does not have a character of it is on one side of that character. -/
theorem infix_append_cons {part a b : List Char} {c : Char} (hc : c ∉ part)
    (h : part <:+: a ++ c :: b) : part <:+: a ∨ part <:+: b := by
  obtain ⟨s, t, hst⟩ := h
  rw [List.append_assoc, List.append_eq_append_iff] at hst
  rcases hst with ⟨as, rfl, htail⟩ | ⟨bs, rfl, htail⟩
  · rw [List.append_eq_append_iff] at htail
    rcases htail with ⟨as', rfl, -⟩ | ⟨bs, rfl, htail⟩
    · exact Or.inl (List.infix_append' s part as')
    · cases bs with
      | nil =>
        rw [List.append_nil]
        exact Or.inl List.infix_append_right
      | cons c' bs =>
        obtain ⟨rfl, -⟩ := List.cons.inj htail
        exact absurd (List.mem_append_right _ List.mem_cons_self) hc
  · cases bs with
    | nil =>
      cases part with
      | nil => exact Or.inl List.nil_infix
      | cons c' part =>
        obtain ⟨rfl, -⟩ := List.cons.inj htail
        exact absurd List.mem_cons_self hc
    | cons c' bs =>
      obtain ⟨-, rfl⟩ := List.cons.inj htail
      exact Or.inr (List.infix_append' bs part t)

theorem isMarked_eq_true_iff {text : List Char} :
    isMarked text = true ↔ ∃ marker ∈ markers, marker <:+: text := by
  simp only [isMarked, List.any_eq_true, decide_eq_true_eq]

/-- A marker outside of the passwords marks the text. -/
theorem isMarked_urlText {urls : List ConnectionUrl} {tail : List Char}
    (h : (∃ url ∈ urls, isMarked url.left = true) ∨ isMarked tail = true) :
    isMarked (urlText urls tail) = true := by
  induction urls with
  | nil => simpa [urlText] using h
  | cons url urls ih =>
    simp only [isMarked_eq_true_iff] at h ih ⊢
    have hrest : ((∃ url ∈ urls, ∃ marker ∈ markers, marker <:+: url.left) ∨
        ∃ marker ∈ markers, marker <:+: tail) →
        ∃ marker ∈ markers, marker <:+: urlText (url :: urls) tail := by
      intro hlater
      obtain ⟨marker, hmarker, hinfix⟩ := ih hlater
      exact ⟨marker, hmarker, List.infix_append_of_infix_right (List.infix_cons hinfix)⟩
    rcases h with ⟨url', hmem, hleft⟩ | htail
    · rcases List.mem_cons.mp hmem with rfl | hmem
      · obtain ⟨marker, hmarker, hinfix⟩ := hleft
        refine ⟨marker, hmarker, hinfix.trans ?_⟩
        rw [urlText, List.append_assoc]
        exact List.infix_append_left
      · exact hrest (Or.inl ⟨url', hmem, hleft⟩)
    · exact hrest (Or.inr htail)

/-- Passwords of one character that no marker has do not mark the text. -/
theorem isMarked_of_withPasswords {urls : List ConnectionUrl} {tail : List Char} {c : Char}
    {hat : '@' ∉ [c]} (hc : ∀ marker ∈ markers, c ∉ marker)
    (h : isMarked (urlText (withPasswords urls [c] hat) tail) = true) :
    (∃ url ∈ urls, isMarked url.left = true) ∨ isMarked tail = true := by
  induction urls with
  | nil => exact Or.inr h
  | cons url urls ih =>
    obtain ⟨marker, hmarker, hinfix⟩ := isMarked_eq_true_iff.mp h
    have hplain : '@' ∉ marker := by
      have hnone : ∀ marker ∈ markers, '@' ∉ marker := by decide
      exact hnone marker hmarker
    have hne : marker ≠ [] := by
      have hnone : ∀ marker ∈ markers, marker ≠ [] := by decide
      exact hnone marker hmarker
    have htext : urlText (withPasswords (url :: urls) [c] hat) tail =
        url.left ++ c :: ([] ++ '@' :: urlText (withPasswords urls [c] hat) tail) := by
      rw [withPasswords, List.map_cons, urlText, List.append_assoc]
      rfl
    rw [htext] at hinfix
    rcases infix_append_cons (hc marker hmarker) hinfix with hleft | hright
    · exact Or.inl ⟨url, List.mem_cons_self,
        isMarked_eq_true_iff.mpr ⟨marker, hmarker, hleft⟩⟩
    · rcases infix_append_cons hplain hright with hnil | hrest
      · exact absurd (List.infix_nil.mp hnil) hne
      · rcases ih (isMarked_eq_true_iff.mpr ⟨marker, hmarker, hrest⟩) with
          ⟨url', hmem, hurl⟩ | htail
        · exact Or.inl ⟨url', List.mem_cons_of_mem _ hmem, hurl⟩
        · exact Or.inr htail

/-! ### Values in which nothing is secret -/

section Plain

variable {allowed : List Char → Prop}

theorem sameUrl_symm {urls urls' : List ConnectionUrl}
    (h : List.Forall₂ (SameUrl allowed) urls urls') :
    List.Forall₂ (SameUrl allowed) urls' urls := by
  induction h with
  | nil => exact .nil
  | cons hurl hurls ih => exact .cons ⟨hurl.1.symm, hurl.2.1.symm, hurl.2.2.2, hurl.2.2.1⟩ ih

/-- Each URL has one that differs from it in the password only. -/
theorem exists_sameUrl {urls urls' : List ConnectionUrl}
    (h : List.Forall₂ (SameUrl allowed) urls urls') {url : ConnectionUrl} (hmem : url ∈ urls) :
    ∃ url' ∈ urls', SameUrl allowed url url' := by
  induction h with
  | nil => exact nomatch hmem
  | cons hurl hurls ih =>
    rcases List.mem_cons.mp hmem with rfl | hmem
    · exact ⟨_, List.mem_cons_self, hurl⟩
    · obtain ⟨url', hmem', hurl'⟩ := ih hmem
      exact ⟨url', List.mem_cons_of_mem _ hmem', hurl'⟩

theorem allowed_of_mem {urls urls' : List ConnectionUrl}
    (h : List.Forall₂ (SameUrl allowed) urls urls') {url : ConnectionUrl} (hmem : url ∈ urls) :
    allowed url.password := by
  obtain ⟨url', -, hurl⟩ := exists_sameUrl h hmem
  exact hurl.2.2.1

/-- Whether URLs are masked is not up to their passwords. -/
theorem masked_congr {urls urls' : List ConnectionUrl} {tail : List Char}
    (h : List.Forall₂ (SameUrl allowed) urls urls') (hmasked : Masked urls tail) :
    Masked urls' tail := by
  obtain ⟨hu, hmarked⟩ := hmasked
  constructor
  · intro url' hmem
    obtain ⟨url, hmem, hurl⟩ := exists_sameUrl (sameUrl_symm h) hmem
    rw [hurl.2.1]
    exact hu url hmem
  · rcases hmarked with ⟨url, hmem, hleft⟩ | htail
    · obtain ⟨url', hmem', hurl⟩ := exists_sameUrl h hmem
      rw [ConnectionUrl.left, hurl.1, hurl.2.1] at hleft
      exact Or.inl ⟨url', hmem', hleft⟩
    · exact Or.inr htail

/-- The URLs of a text may have any password that is allowed. -/
theorem sameUrl_withPasswords {urls : List ConnectionUrl} {password : List Char}
    (hat : '@' ∉ password) (h : ∀ url ∈ urls, allowed url.password) (hallowed : allowed password) :
    List.Forall₂ (SameUrl allowed) urls (withPasswords urls password hat) := by
  induction urls with
  | nil => exact .nil
  | cons url urls ih =>
    refine .cons ⟨rfl, rfl, h url List.mem_cons_self, hallowed⟩ (ih fun url' hmem => ?_)
    exact h url' (List.mem_cons_of_mem _ hmem)

mutual

/-- A value in which nothing is secret is like no other value. -/
theorem Plain.eq : ∀ {value value' : Value}, Plain allowed value →
    SameButSecrets allowed value value' → value' = value
  | .str _, _, hplain, h => by
    cases h with
    | refl => rfl
    | url tail hurls =>
      cases hurls with
      | nil => rfl
      | cons hurl hurls =>
        rw [Plain] at hplain
        refine absurd ⟨rfl, List.cons_ne_nil _ _, fun url hmem => ?_⟩ (hplain _ tail)
        exact allowed_of_mem (.cons hurl hurls) hmem
  | .list _, _, hplain, h => by
    cases h with
    | refl => rfl
    | list hitems =>
      rw [Plain] at hplain
      rw [PlainItems.eq hplain hitems]
  | .dict _, _, hplain, h => by
    cases h with
    | refl => rfl
    | dict hentries =>
      rw [Plain] at hplain
      rw [PlainEntries.eq hplain hentries]
  | .bool _, _, _, .refl _ => rfl
  | .int _, _, _, .refl _ => rfl
  | .float _, _, _, .refl _ => rfl
  | .other _, _, _, .refl _ => rfl

theorem PlainItems.eq : ∀ {items items' : List Value}, PlainItems allowed items →
    SameItems allowed items items' → items' = items
  | [], _, _, .nil => rfl
  | _ :: _, _, hplain, .cons h hitems => by
    rw [PlainItems] at hplain
    rw [Plain.eq hplain.1 h, PlainItems.eq hplain.2 hitems]

theorem PlainEntries.eq : ∀ {entries entries' : Dict}, PlainEntries allowed entries →
    SameEntries allowed entries entries' → entries' = entries
  | [], _, _, .nil => rfl
  | _ :: _, _, hplain, .sensitive h _ => by
    rw [PlainEntries] at hplain
    exact absurd h (by simp [hplain.1])
  | _ :: _, _, hplain, .cons h hentries => by
    rw [PlainEntries] at hplain
    rw [Plain.eq hplain.2.1 h, PlainEntries.eq hplain.2.2 hentries]

end

/-- Two passwords that every log can be asked about. -/
structure TellsApart (allowed : List Char → Prop) : Prop where
  /-- One of them. -/
  first : allowed ['x']
  /-- The other one. -/
  second : allowed ['z']

theorem SameItems.refl : ∀ items : List Value, SameItems allowed items items
  | [] => .nil
  | value :: items => .cons (.refl value) (SameItems.refl items)

theorem SameEntries.refl : ∀ entries : Dict, SameEntries allowed entries entries
  | [] => .nil
  | (_, value) :: entries => .cons (.refl value) (SameEntries.refl entries)

theorem x_plain : '@' ∉ ['x'] := by decide

theorem z_plain : '@' ∉ ['z'] := by decide

theorem empty_plain : '@' ∉ ([] : List Char) := by decide

/-- A text tells the short passwords of its URLs apart. -/
theorem urlText_withPasswords_ne {urls : List ConnectionUrl} (h : urls ≠ []) (tail : List Char) :
    urlText (withPasswords urls ['x'] x_plain) tail ≠
      urlText (withPasswords urls ['z'] z_plain) tail := by
  cases urls with
  | nil => exact absurd rfl h
  | cons url urls =>
    intro hsame
    simp only [withPasswords, List.map_cons, urlText, List.append_assoc] at hsame
    have hchar := (List.cons.inj (List.append_cancel_left hsame)).1
    exact absurd hchar (by decide)

mutual

/-- A value that is like no other value has no secrets. -/
theorem plain_of_forall (ha : TellsApart allowed) : ∀ {value : Value},
    (∀ value', SameButSecrets allowed value value' → value' = value) → Plain allowed value
  | .str text, h => by
    rw [Plain]
    rintro urls tail ⟨rfl, hne, hallowed⟩
    have hx := h _ (.url tail (sameUrl_withPasswords x_plain hallowed ha.first))
    have hz := h _ (.url tail (sameUrl_withPasswords z_plain hallowed ha.second))
    exact urlText_withPasswords_ne hne tail (Value.str.inj (hx.trans hz.symm))
  | .list items, h => by
    rw [Plain]
    refine plainItems_of_forall ha fun items' hitems => ?_
    exact Value.list.inj (h _ (.list hitems))
  | .dict entries, h => by
    rw [Plain]
    refine plainEntries_of_forall ha fun entries' hentries => ?_
    exact Value.dict.inj (h _ (.dict hentries))
  | .bool _, _ => by simp only [Plain]
  | .int _, _ => by simp only [Plain]
  | .float _, _ => by simp only [Plain]
  | .other _, _ => by simp only [Plain]

theorem plainItems_of_forall (ha : TellsApart allowed) : ∀ {items : List Value},
    (∀ items', SameItems allowed items items' → items' = items) → PlainItems allowed items
  | [], _ => by simp only [PlainItems]
  | value :: items, h => by
    rw [PlainItems]
    constructor
    · refine plain_of_forall ha fun value' hvalue => ?_
      exact (List.cons.inj (h _ (.cons hvalue (SameItems.refl items)))).1
    · refine plainItems_of_forall ha fun items' hitems => ?_
      exact (List.cons.inj (h _ (.cons (.refl value) hitems))).2

theorem plainEntries_of_forall (ha : TellsApart allowed) : ∀ {entries : Dict},
    (∀ entries', SameEntries allowed entries entries' → entries' = entries) →
      PlainEntries allowed entries
  | [], _ => by simp only [PlainEntries]
  | (key, value) :: entries, h => by
    rw [PlainEntries]
    refine ⟨?_, ?_, ?_⟩
    · -- under a sensitive key there could be anything
      by_contra hsensitive
      rw [Bool.not_eq_false] at hsensitive
      have hvalue (value' : Value) : (key, value') :: entries = (key, value) :: entries :=
        h _ (.sensitive hsensitive (SameEntries.refl entries))
      have hboth := (hvalue (.bool true)).trans (hvalue (.bool false)).symm
      exact absurd hboth (by simp)
    · refine plain_of_forall ha fun value' hvalue => ?_
      have hcons := (List.cons.inj (h _ (.cons hvalue (SameEntries.refl entries)))).1
      exact congrArg Prod.snd hcons
    · refine plainEntries_of_forall ha fun entries' hentries => ?_
      exact (List.cons.inj (h _ (.cons (.refl value) hentries))).2

end

/-- The values in which nothing is secret are those that are like no other value. -/
theorem plain_iff (ha : TellsApart allowed) {value : Value} :
    Plain allowed value ↔ ∀ value', SameButSecrets allowed value value' → value' = value :=
  ⟨fun hplain _ h => hplain.eq h, plain_of_forall ha⟩

end Plain

/-! ### When the log hides the secrets -/

/-- What is logged of a text under a key that is not sensitive. -/
def sanitizeText (text : List Char) : List Char :=
  if isMarked text then maskPasswords text else text

theorem sanitizeEntry_of_sensitive {key : List Char} (h : isSensitive key = true) (value : Value) :
    sanitizeEntry key value = .str "***REDACTED***".toList := by
  cases value <;> simp only [sanitizeEntry, h, if_true]

theorem sanitizeEntry_str {key text : List Char} (h : isSensitive key = false) :
    sanitizeEntry key (.str text) = .str (sanitizeText text) := by
  rw [sanitizeEntry, sanitizeText, h, if_neg Bool.false_ne_true]
  split <;> rfl

/-- What is logged of the URLs of a text that has a marker, if they are masked. -/
def maskedUrls (urls : List ConnectionUrl) (tail : List Char) : List Char :=
  match urls with
  | [] => maskPasswords tail
  | url :: urls => url.left ++ ("***@".toList ++ maskedUrls urls tail)

/-- Different passwords do not show in it. -/
theorem maskedUrls_congr {allowed : List Char → Prop} {urls urls' : List ConnectionUrl}
    (h : List.Forall₂ (SameUrl allowed) urls urls') (tail : List Char) :
    maskedUrls urls' tail = maskedUrls urls tail := by
  induction h with
  | nil => rfl
  | cons hurl hurls ih => rw [maskedUrls, maskedUrls, ih, ConnectionUrl.left, ConnectionUrl.left,
      hurl.1, hurl.2.1]

/-- URLs with user names and passwords are masked. -/
theorem maskPasswords_urlText {urls : List ConnectionUrl} (hu : ∀ url ∈ urls, url.user ≠ [])
    (hp : ∀ url ∈ urls, url.password ≠ []) (tail : List Char) :
    maskPasswords (urlText urls tail) = maskedUrls urls tail := by
  induction urls with
  | nil => rfl
  | cons url urls ih =>
    rw [urlText, maskPasswords_url _ _ (hu url List.mem_cons_self) (hp url List.mem_cons_self),
      ih (fun url' hmem => hu url' (List.mem_cons_of_mem _ hmem))
        (fun url' hmem => hp url' (List.mem_cons_of_mem _ hmem)), maskedUrls]

/-- Short passwords show in the text if a URL has no user name. -/
theorem user_ne_of_maskPasswords_eq {urls : List ConnectionUrl} {tail : List Char}
    (h : maskPasswords (urlText (withPasswords urls ['x'] x_plain) tail) =
      maskPasswords (urlText (withPasswords urls ['z'] z_plain) tail)) :
    ∀ url ∈ urls, url.user ≠ [] := by
  induction urls with
  | nil => exact fun url hmem => nomatch hmem
  | cons url urls ih =>
    have hx : urlText (withPasswords (url :: urls) ['x'] x_plain) tail =
        (url.withPassword ['x'] x_plain).left ++ (url.withPassword ['x'] x_plain).password ++
          '@' :: urlText (withPasswords urls ['x'] x_plain) tail := rfl
    have hz : urlText (withPasswords (url :: urls) ['z'] z_plain) tail =
        (url.withPassword ['z'] z_plain).left ++ (url.withPassword ['z'] z_plain).password ++
          '@' :: urlText (withPasswords urls ['z'] z_plain) tail := rfl
    rw [hx, hz] at h
    have huser : url.user ≠ [] := by
      intro huser
      rw [maskPasswords_url_of_not (url.withPassword ['x'] x_plain) _ (fun hne => hne.1 huser)
          (by decide : ':' ∉ ['x']) rfl (by decide),
        maskPasswords_url_of_not (url.withPassword ['z'] z_plain) _ (fun hne => hne.1 huser)
          (by decide : ':' ∉ ['z']) rfl (by decide)] at h
      have hchar := (List.cons.inj (List.append_cancel_left h)).1
      exact absurd hchar (by decide)
    rw [maskPasswords_url (url.withPassword ['x'] x_plain) _ huser (by decide : ['x'] ≠ []),
      maskPasswords_url (url.withPassword ['z'] z_plain) _ huser (by decide : ['z'] ≠ [])] at h
    have hrest := ih (List.append_cancel_left (List.append_cancel_left h))
    intro url' hmem
    rcases List.mem_cons.mp hmem with rfl | hmem
    · exact huser
    · exact hrest url' hmem

/-- URLs of which the same is logged for two short passwords are masked. -/
theorem masked_of_sanitizeText_eq {urls : List ConnectionUrl} {tail : List Char} (hne : urls ≠ [])
    (h : sanitizeText (urlText (withPasswords urls ['x'] x_plain) tail) =
      sanitizeText (urlText (withPasswords urls ['z'] z_plain) tail)) : Masked urls tail := by
  by_cases hmarked : (∃ url ∈ urls, isMarked url.left = true) ∨ isMarked tail = true
  · have hwith : ∀ {password : List Char} (hat : '@' ∉ password),
        isMarked (urlText (withPasswords urls password hat) tail) = true := by
      intro password hat
      refine isMarked_urlText (hmarked.imp_left ?_)
      rintro ⟨url, hmem, hleft⟩
      exact ⟨url.withPassword password hat, List.mem_map_of_mem hmem, hleft⟩
    rw [sanitizeText, if_pos (hwith _), sanitizeText, if_pos (hwith _)] at h
    exact ⟨user_ne_of_maskPasswords_eq h, hmarked⟩
  · -- no marker, so both texts are logged as they are
    have hx : isMarked (urlText (withPasswords urls ['x'] x_plain) tail) ≠ true :=
      fun hx => hmarked (isMarked_of_withPasswords (by decide) hx)
    have hz : isMarked (urlText (withPasswords urls ['z'] z_plain) tail) ≠ true :=
      fun hz => hmarked (isMarked_of_withPasswords (by decide) hz)
    rw [sanitizeText, if_neg hx, sanitizeText, if_neg hz] at h
    exact absurd h (urlText_withPasswords_ne hne tail)

section Hides

variable {allowed : List Char → Prop} {data : Dict} {key : List Char} {value value' : Value}

theorem SameEntries.append_left {entries entries' : Dict}
    (h : SameEntries allowed entries entries') :
    ∀ before : Dict, SameEntries allowed (before ++ entries) (before ++ entries')
  | [] => h
  | (_, value) :: before => .cons (.refl value) (h.append_left before)

/-- An entry may be changed on its own. -/
theorem Hides.entry (h : Hides allowed data) (hmem : (key, value) ∈ data)
    (hsame : SameButSecrets allowed value value') :
    sanitizeEntry key value' = sanitizeEntry key value := by
  obtain ⟨before, after, rfl⟩ := List.append_of_mem hmem
  have hentries : SameEntries allowed (before ++ (key, value) :: after)
      (before ++ (key, value') :: after) :=
    (SameEntries.cons hsame (SameEntries.refl after)).append_left before
  have hlog := h _ hentries
  rw [sanitizeForLogging, sanitizeForLogging, List.map_append, List.map_append] at hlog
  exact congrArg Prod.snd (List.cons.inj (List.append_cancel_left hlog)).1

/-- A secret that is hidden is under a sensitive key, or in a text whose URLs are masked. -/
theorem Hides.masks (h : Hides allowed data) (ha : TellsApart allowed) (hmem : (key, value) ∈ data)
    (hkey : isSensitive key = false) : Plain allowed value ∨ Masks allowed value := by
  cases value with
  | str text =>
    refine Or.inr ⟨text, rfl, ?_⟩
    rintro urls tail ⟨rfl, hne, hallowed⟩
    have hx := h.entry hmem (.url tail (sameUrl_withPasswords x_plain hallowed ha.first))
    have hz := h.entry hmem (.url tail (sameUrl_withPasswords z_plain hallowed ha.second))
    have hsame := hx.trans hz.symm
    rw [sanitizeEntry_str hkey, sanitizeEntry_str hkey] at hsame
    exact masked_of_sanitizeText_eq hne (Value.str.inj hsame)
  | list items =>
    -- a list is logged as it is
    refine Or.inl ((plain_iff ha).mpr fun value' hsame => ?_)
    have hlog := h.entry hmem hsame
    cases hsame with
    | refl => rfl
    | list hitems => simpa only [sanitizeEntry, hkey, Bool.false_eq_true, if_false] using hlog
  | dict entries =>
    refine Or.inl ((plain_iff ha).mpr fun value' hsame => ?_)
    have hlog := h.entry hmem hsame
    cases hsame with
    | refl => rfl
    | dict hentries => simpa only [sanitizeEntry, hkey, Bool.false_eq_true, if_false] using hlog
  | bool b => exact Or.inl (by simp only [Plain])
  | int n => exact Or.inl (by simp only [Plain])
  | float text => exact Or.inl (by simp only [Plain])
  | other text => exact Or.inl (by simp only [Plain])

/-- The log hides the secrets if each entry has none, or hides them itself. -/
theorem hides_of_entries
    (h : ∀ entry ∈ data, ∀ value', SameButSecrets allowed entry.2 value' →
      sanitizeEntry entry.1 value' = sanitizeEntry entry.1 entry.2) : Hides allowed data := by
  induction data with
  | nil =>
    intro data' hsame
    cases hsame
    rfl
  | cons entry data ih =>
    intro data' hsame
    have htail := ih fun entry' hmem => h entry' (List.mem_cons_of_mem _ hmem)
    cases hsame with
    | sensitive hkey hentries =>
      have hrest := htail _ hentries
      rw [sanitizeForLogging] at hrest ⊢
      rw [List.map_cons, hrest, sanitizeEntry_of_sensitive hkey]
      rw [sanitizeForLogging, sanitizeForLogging, List.map_cons, sanitizeEntry_of_sensitive hkey]
    | cons hvalue hentries =>
      have hrest := htail _ hentries
      rw [sanitizeForLogging] at hrest ⊢
      rw [List.map_cons, hrest, h _ List.mem_cons_self _ hvalue]
      rfl

/-- A value that is plain, or under a sensitive key, hides itself. -/
theorem sanitizeEntry_eq (h : isSensitive key = true ∨ Plain allowed value)
    (hsame : SameButSecrets allowed value value') :
    sanitizeEntry key value' = sanitizeEntry key value := by
  rcases h with hkey | hplain
  · rw [sanitizeEntry_of_sensitive hkey, sanitizeEntry_of_sensitive hkey]
  · rw [hplain.eq hsame]

/-- A text whose URLs are masked hides all passwords that are not empty. -/
theorem sanitizeEntry_eq_of_masks (h : Masks (· ≠ []) value)
    (hsame : SameButSecrets (· ≠ []) value value') :
    sanitizeEntry key value' = sanitizeEntry key value := by
  obtain ⟨text, rfl, hmasked⟩ := h
  cases hsame with
  | refl => rfl
  | url tail hurls =>
    rename_i urls urls'
    by_cases hne : urls = []
    · subst hne
      cases hurls
      rfl
    cases hkey : isSensitive key with
    | true => rw [sanitizeEntry_of_sensitive hkey, sanitizeEntry_of_sensitive hkey]
    | false =>
      have hp : ∀ url ∈ urls, url.password ≠ [] := fun url hmem => allowed_of_mem hurls hmem
      have hp' : ∀ url ∈ urls', url.password ≠ [] := fun url hmem =>
        allowed_of_mem (sameUrl_symm hurls) hmem
      obtain ⟨hu, hmarked⟩ := hmasked urls tail ⟨rfl, hne, hp⟩
      obtain ⟨hu', hmarked'⟩ := masked_congr hurls ⟨hu, hmarked⟩
      rw [sanitizeEntry_str hkey, sanitizeEntry_str hkey, sanitizeText,
        if_pos (isMarked_urlText hmarked'), sanitizeText, if_pos (isMarked_urlText hmarked),
        maskPasswords_urlText hu' hp', maskPasswords_urlText hu hp, maskedUrls_congr hurls]

/-- An empty password and a short one are told apart. -/
theorem not_masks_of_hides (h : Hides (fun _ => True) data) (hmem : (key, value) ∈ data)
    (hkey : isSensitive key = false) (hmasks : Masks (fun _ => True) value) :
    Plain (fun _ => True) value := by
  obtain ⟨text, rfl, hmasked⟩ := hmasks
  rw [Plain]
  rintro urls tail ⟨rfl, hne, hallowed⟩
  obtain ⟨hu, hmarked⟩ := hmasked urls tail ⟨rfl, hne, hallowed⟩
  have hempty := h.entry hmem (.url tail (sameUrl_withPasswords empty_plain hallowed trivial))
  have hx := h.entry hmem (.url tail (sameUrl_withPasswords x_plain hallowed trivial))
  have hwith : ∀ {password : List Char} (hat : '@' ∉ password),
      isMarked (urlText (withPasswords urls password hat) tail) = true := by
    intro password hat
    refine isMarked_urlText (hmarked.imp_left ?_)
    rintro ⟨url, hmem, hleft⟩
    exact ⟨url.withPassword password hat, List.mem_map_of_mem hmem, hleft⟩
  have hsame := hempty.trans hx.symm
  rw [sanitizeEntry_str hkey, sanitizeEntry_str hkey, Value.str.injEq, sanitizeText,
    if_pos (hwith _), sanitizeText, if_pos (hwith _)] at hsame
  cases urls with
  | nil => exact hne rfl
  | cons url urls =>
    -- with a password the first URL is masked, and without one it is not
    have hshort : urlText (withPasswords (url :: urls) ['x'] x_plain) tail =
        (url.withPassword ['x'] x_plain).left ++ (url.withPassword ['x'] x_plain).password ++
          '@' :: urlText (withPasswords urls ['x'] x_plain) tail := rfl
    have hnone : urlText (withPasswords (url :: urls) [] empty_plain) tail =
        (url.withPassword [] empty_plain).left ++ (url.withPassword [] empty_plain).password ++
          '@' :: urlText (withPasswords urls [] empty_plain) tail := rfl
    rw [hshort, hnone,
      maskPasswords_url (url.withPassword ['x'] x_plain) _ (hu url List.mem_cons_self)
        (by decide : ['x'] ≠ []),
      maskPasswords_url_of_not (url.withPassword [] empty_plain) _ (fun hne => hne.2 rfl)
        (by decide : ':' ∉ []) rfl (by decide)] at hsame
    have hchar := (List.cons.inj (List.append_cancel_left hsame)).1
    exact absurd hchar (by decide)

end Hides

end ProxmoxIaas.Terraform
