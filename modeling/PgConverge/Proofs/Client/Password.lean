import PgConverge.Client.ConnectionString
import PgConverge.Proofs.Url.Redaction
import PgConverge.Provider

/-!
# Passwords in connection URLs

A connection URL gives its password in front of the hosts, or as a parameter of the query. What is
shown of a URL hides the former and not the latter.

## Main definitions

* `Client.PasswordPlace` — a URL with a place for the password.

## Main statements

* `Client.PasswordPlace.password_of_parse?` — the client takes the password that is in that place.
* `Client.PasswordPlace.shown_password_iff` — the places where a password makes no difference to
  what is shown.
-/

namespace PgConverge.Client

namespace Settings

variable {settings next : Settings}

/-! ## Settings that keep their password -/

theorem password_foldl_addHost (hosts : List (List Char)) (settings : Settings) :
    (hosts.foldl (fun s host => s.addHost (.ofText host)) settings).password =
      settings.password := by
  induction hosts generalizing settings with
  | nil => rfl
  | cons host hosts ih => exact ih (settings.addHost (.ofText host))

/-- One keyword only changes the password. -/
theorem password_of_set? {keyword value : String} (h : settings.set? keyword value = some next)
    (hkeyword : keyword ≠ "password") : next.password = settings.password := by
  unfold set? at h
  split at h
  case h_2 => exact absurd rfl hkeyword
  case h_8 =>
    cases h
    exact password_foldl_addHost _ _
  case h_20 => cases h
  all_goals first
    | cases h; rfl
    | obtain ⟨_, -, rfl⟩ := Option.map_eq_some_iff.mp h
      rfl

theorem password_of_withHost? {s : List Char} (h : settings.withHost? s = some next) :
    next.password = settings.password := by
  simp only [withHost?] at h
  split at h
  · cases h
    rfl
  · obtain ⟨_, -, rfl⟩ := Option.map_eq_some_iff.mp h
    rfl

theorem password_of_withHostPort? {s : List Char} (h : settings.withHostPort? s = some next) :
    next.password = settings.password := by
  simp only [withHostPort?, Option.bind_eq_bind, Option.bind_eq_some_iff, Prod.exists] at h
  obtain ⟨host, port, -, named, hhost, hport⟩ := h
  rw [← password_of_withHost? hhost]
  cases port with
  | none =>
    cases hport
    rfl
  | some port =>
    obtain ⟨port, -, hset⟩ := Option.bind_eq_some_iff.mp hport
    exact password_of_set? hset (by decide)

theorem password_of_withHosts? {s : List Char} (h : settings.withHosts? s = some next) :
    next.password = settings.password := by
  unfold withHosts? at h
  split at h
  · cases h
    rfl
  · generalize Text.splitWhere (· == ',') s = hosts at h
    induction hosts generalizing settings with
    | nil =>
      cases h
      rfl
    | cons host hosts ih =>
      rw [List.foldlM_cons] at h
      obtain ⟨mid, hmid, hrest⟩ := Option.bind_eq_some_iff.mp h
      rw [ih hrest, password_of_withHostPort? hmid]

theorem password_of_withPath? {s : List Char} (h : settings.withPath? s = some next) :
    next.password = settings.password := by
  unfold withPath? at h
  split at h
  · obtain ⟨_, -, rfl⟩ := Option.map_eq_some_iff.mp h
    rfl
  · cases h
    rfl

/-! ## The parts of a URL -/

/-- Reads what stands behind the credentials of a URL. -/
def behindCredentials? (settings : Settings) (s : List Char) : Option Settings := do
  let (hosts, s) := Text.splitBefore (fun c => c == '/' || c == '?') s
  let settings ← settings.withHosts? hosts
  let (path, query) := Text.splitFirst (· == '?') s
  let settings ← settings.withPath? path
  withQueryWithin? s.length settings (query.getD [])

theorem ofUrl?_eq_of_credentials {credentials behind : List Char}
    (hcredentials : ∀ c ∈ credentials, (c == '@') = false) :
    ofUrl? (credentials ++ '@' :: behind) =
      (initial.withCredentials? credentials).bind (behindCredentials? · behind) := by
  rw [ofUrl?, Text.splitFirst_append hcredentials rfl]
  simp only [Option.bind_eq_bind, Option.pure_def, Option.bind_some]
  rfl

theorem ofUrl?_eq_of_forall {s : List Char} (hs : ∀ c ∈ s, (c == '@') = false) :
    ofUrl? s = initial.behindCredentials? s := by
  rw [ofUrl?, Text.splitFirst_of_forall hs]
  rfl

/-- The query behind the first question mark. -/
def queryOf (s : List Char) : List Char := (Text.splitFirst (· == '?') s).2.getD []

/-- In front of the query nothing changes the password. -/
theorem exists_withQueryWithin? {s : List Char} (h : settings.behindCredentials? s = some next) :
    ∃ mid count, mid.password = settings.password ∧ (queryOf s).length ≤ count ∧
      withQueryWithin? count mid (queryOf s) = some next := by
  rcases hsplit : Text.splitBefore (fun c => c == '/' || c == '?') s with ⟨hosts, rest⟩
  obtain ⟨hhosts, hs⟩ := Text.of_splitBefore hsplit
  have hplain : ∀ c ∈ hosts, (c == '?') = false := fun c hc =>
    (Bool.or_eq_false_iff.mp (hhosts c hc)).2
  have hquery : queryOf s = (Text.splitFirst (· == '?') rest).2.getD [] := by
    rw [queryOf, hs, Text.splitFirst_append_of_forall hplain]
  rw [behindCredentials?, hsplit] at h
  simp only [Option.bind_eq_bind, Option.bind_eq_some_iff] at h
  obtain ⟨named, hnamed, mid, hmid, hnext⟩ := h
  rw [← hquery] at hnext
  refine ⟨mid, _, ?_, ?_, hnext⟩
  · rw [password_of_withPath? hmid, password_of_withHosts? hnamed]
  · rw [hquery]
    rcases hpath : Text.splitFirst (· == '?') rest with ⟨path, _ | query⟩
    · exact Nat.zero_le _
    · obtain ⟨-, c, -, rfl⟩ := Text.of_splitFirst hpath
      simp only [Option.getD_some, List.length_append, List.length_cons]
      omega

/-! ## The query -/

/-- The text of a parameter. -/
def parameterText (parameter : List Char × List Char) : List Char :=
  parameter.1 ++ '=' :: parameter.2

/-- Whether the parameters in a text give no password. -/
def KeepsPassword (s : List Char) : Prop :=
  ∀ (count : Nat) (settings next : Settings),
    withQueryWithin? count settings s = some next → next.password = settings.password

theorem keepsPassword_nil : KeepsPassword [] := by
  intro count settings next h
  cases count <;> cases h <;> rfl

theorem withQueryWithin?_succ (settings : Settings) {keyword value rest : List Char}
    (hkeyword : ∀ c ∈ keyword, (c == '=') = false) (hvalue : ∀ c ∈ value, (c == '&') = false)
    (hrest : rest = [] ∨ ∃ more, rest = '&' :: more) (count : Nat) :
    withQueryWithin? (count + 1) settings (parameterText (keyword, value) ++ rest) =
      (settings.withParameter? keyword value).bind fun settings =>
        withQueryWithin? count settings rest.tail := by
  have hparameter : parameterText (keyword, value) ++ rest = keyword ++ '=' :: (value ++ rest) := by
    simp [parameterText]
  rw [hparameter, withQueryWithin?, Text.splitFirst_append hkeyword rfl]
  · rcases hrest with rfl | ⟨more, rfl⟩
    · rw [List.append_nil]
      simp only [Text.splitFirst_of_forall hvalue]
      rfl
    · simp only [Text.splitFirst_append hvalue (c := '&') rfl]
      rfl
  · simp

/-- The bytes of a text are those that it was decoded from. -/
theorem utf8_of_decode? {s : List Char} {text : String} (h : decode? s = some text) :
    Url.utf8 text.toList = Url.percentDecode s := by
  simp only [decode?, Url.percentDecodeText?, Option.map_map, Option.map_eq_some_iff] at h
  obtain ⟨read, hread, rfl⟩ := h
  have hbytes : read.toByteArray = ⟨(Url.percentDecode s).toArray⟩ := by
    rw [String.fromUTF8?] at hread
    split at hread
    · cases hread
      rfl
    · cases hread
  rw [← String.ofList_toList (s := read), String.toByteArray_ofList, List.utf8Encode] at hbytes
  have hlist := congrArg (fun bytes => bytes.data.toList) hbytes
  simpa [Url.utf8] using hlist

theorem password_of_withParameter? {p : List Char}
    (h : settings.withParameter? "password".toList p = some next) :
    next.password = some (Url.percentDecode p) := by
  simp only [withParameter?, Option.bind_eq_bind, Option.bind_eq_some_iff] at h
  obtain ⟨keyword, hkeyword, h⟩ := h
  have hdecode : decode? "password".toList = some "password" := rfl
  obtain rfl : "password" = keyword := Option.some.inj (hdecode.symm.trans hkeyword)
  obtain ⟨value, hvalue, hset⟩ := Option.bind_eq_some_iff.mp h
  cases hset
  exact congrArg some (utf8_of_decode? hvalue)

theorem beq_eq_false_of_any {s : List Char} {mark : Char} (h : s.any (· == mark) = false) :
    ∀ c ∈ s, (c == mark) = false :=
  fun c hc => eq_false_of_ne_true (List.any_eq_false.mp h c hc)

theorem beq_eq_false_of_forall_ne {s : List Char} {mark : Char} (h : ∀ c ∈ s, c ≠ mark) :
    ∀ c ∈ s, (c == mark) = false :=
  fun c hc => beq_eq_false_iff_ne.mpr (h c hc)

/-- A password among the parameters is taken, if no later one gives another. -/
theorem password_of_withQueryWithin? {earlier : List (List Char × List Char)}
    (hearlier : ∀ x ∈ earlier, (∀ c ∈ x.1, (c == '=') = false) ∧ ∀ c ∈ x.2, (c == '&') = false)
    {p : List Char} (hp : ∀ c ∈ p, (c == '&') = false) {behind : List Char}
    (hbehind : behind = [] ∨ ∃ more, behind = '&' :: more) (hkeeps : KeepsPassword behind.tail)
    {count : Nat} (hcount : earlier.length < count)
    (h : withQueryWithin? count settings (earlier.flatMap (fun x => parameterText x ++ ['&']) ++
      (parameterText ("password".toList, p) ++ behind)) = some next) :
    next.password = some (Url.percentDecode p) := by
  induction earlier generalizing settings count with
  | nil =>
    obtain ⟨count, rfl⟩ := Nat.exists_eq_add_one_of_ne_zero (Nat.ne_zero_of_lt hcount)
    rw [List.flatMap_nil, List.nil_append,
      withQueryWithin?_succ settings (beq_eq_false_of_any rfl) hp hbehind] at h
    obtain ⟨mid, hmid, hrest⟩ := Option.bind_eq_some_iff.mp h
    rw [hkeeps _ _ _ hrest, password_of_withParameter? hmid]
  | cons x earlier ih =>
    obtain ⟨count, rfl⟩ := Nat.exists_eq_add_one_of_ne_zero (Nat.ne_zero_of_lt hcount)
    obtain ⟨⟨hkeyword, hvalue⟩, hearlier⟩ := List.forall_mem_cons.mp hearlier
    rw [List.flatMap_cons, List.append_assoc, List.append_assoc, List.singleton_append,
      withQueryWithin?_succ settings hkeyword hvalue (.inr ⟨_, rfl⟩)] at h
    obtain ⟨mid, -, hrest⟩ := Option.bind_eq_some_iff.mp h
    exact ih hearlier (Nat.lt_of_succ_lt_succ hcount) hrest

end Settings

/-! ## Places for a password -/

/-- A place for the password in what follows the scheme of a URL. -/
inductive PasswordPlace where
  /-- Behind the user, in front of the hosts. -/
  | userinfo (user behind : List Char)
  /-- The value of a parameter, with the parameters before it. -/
  | parameter (front : List Char) (earlier : List (List Char × List Char)) (behind : List Char)

namespace PasswordPlace

/-- What stands in front of the password. -/
def before : PasswordPlace → List Char
  | userinfo user _ => user ++ [':']
  | parameter front earlier _ =>
    front ++ '?' :: (earlier.flatMap (fun x => Settings.parameterText x ++ ['&']) ++
      "password=".toList)

/-- What stands behind the password. -/
def after : PasswordPlace → List Char
  | userinfo _ behind => '@' :: behind
  | parameter _ _ behind => behind

/-- The URL with a password. -/
def url (place : PasswordPlace) (scheme : String) (p : List Char) : String :=
  Url.serverUrl scheme (place.before ++ (p ++ place.after))

/-- Whether the client finds the password in the place. The user is written as in URLs, without
separators; parameters are split as they are read; and no later parameter gives another password.
The client would also take a user with a plain slash, question mark or hash sign. Such users are
left out, since the authority of a URL ends at each of these, so that what is behind them is no
password there. -/
def IsValid : PasswordPlace → Prop
  | userinfo user behind =>
    (∀ c ∈ user, c ∉ [':', '@', '/', '?', '#']) ∧ Settings.KeepsPassword (Settings.queryOf behind)
  | parameter front earlier behind =>
    (∀ c ∈ front, c ≠ '?') ∧
    (∀ x ∈ earlier, (∀ c ∈ x.1, c ≠ '=') ∧ ∀ c ∈ x.2, c ≠ '&') ∧
    ('@' ∈ front ∨ (∀ x ∈ earlier, ∀ c ∈ x.1 ++ x.2, c ≠ '@') ∧ ∀ c ∈ behind, c ≠ '@') ∧
    (behind = [] ∨ ∃ more, behind = '&' :: more) ∧ Settings.KeepsPassword behind.tail

/-- Whether the place is in front of the hosts. -/
def isUserinfo : PasswordPlace → Bool
  | userinfo _ _ => true
  | parameter _ _ _ => false

variable {place : PasswordPlace} {scheme : String} {p q : List Char}

theorem beq_eq_false_of_isValid {user behind : List Char} (h : (userinfo user behind).IsValid)
    {mark : Char} (hmark : mark ∈ [':', '@', '/', '?', '#']) : ∀ c ∈ user, (c == mark) = false :=
  Settings.beq_eq_false_of_forall_ne fun c hc heq => h.1 c hc (heq ▸ hmark)

theorem behindScheme?_serverUrl (hscheme : scheme ∈ Url.serverSchemes) (body : List Char) :
    Settings.behindScheme? (Url.serverUrl scheme body).toList = some body := by
  rw [Url.serverUrl, String.toList_ofList]
  rcases Url.eq_of_mem_serverSchemes hscheme with rfl | rfl <;> rfl

/-- The parameters from the first one to the end of the URL. -/
def parametersText (earlier : List (List Char × List Char)) (p behind : List Char) : List Char :=
  earlier.flatMap (fun x => Settings.parameterText x ++ ['&']) ++
    (Settings.parameterText ("password".toList, p) ++ behind)

theorem parameter_body (front : List Char) (earlier : List (List Char × List Char))
    (p behind : List Char) :
    (parameter front earlier behind).before ++ (p ++ (parameter front earlier behind).after) =
      front ++ '?' :: parametersText earlier p behind := by
  simp [before, after, parametersText, Settings.parameterText]

theorem length_lt_length_parametersText (earlier : List (List Char × List Char))
    (p behind : List Char) : earlier.length < (parametersText earlier p behind).length := by
  induction earlier with
  | nil => simp [parametersText, Settings.parameterText]
  | cons x earlier ih =>
    simp only [parametersText, List.flatMap_cons, List.append_assoc, List.length_append,
      List.length_cons] at ih ⊢
    omega

/-- A password among the parameters is taken, whatever stands in front of the query. -/
theorem password_of_behindCredentials? {front : List Char}
    {earlier : List (List Char × List Char)} {behind : List Char}
    (hplace : (parameter front earlier behind).IsValid) (hp : Url.IsEncoded p) {hosts : List Char}
    (hhosts : ∀ c ∈ hosts, (c == '?') = false) {settings next : Settings}
    (h : settings.behindCredentials? (hosts ++ '?' :: parametersText earlier p behind) =
      some next) : next.password = some (Url.percentDecode p) := by
  obtain ⟨-, hearlier, -, hbehind, hkeeps⟩ := hplace
  have hquery : Settings.queryOf (hosts ++ '?' :: parametersText earlier p behind) =
      parametersText earlier p behind := by
    rw [Settings.queryOf, Text.splitFirst_append hhosts rfl]
    rfl
  obtain ⟨mid, count, -, hcount, hread⟩ := Settings.exists_withQueryWithin? h
  rw [hquery] at hcount hread
  refine Settings.password_of_withQueryWithin? (fun x hx => ?_) (hp.forall_eq_false (by decide))
    hbehind hkeeps ((length_lt_length_parametersText earlier p behind).trans_le hcount) hread
  exact (hearlier x hx).imp Settings.beq_eq_false_of_forall_ne Settings.beq_eq_false_of_forall_ne

/-- A password behind the user is taken, if no parameter gives another. -/
theorem password_of_ofUrl?_userinfo {user behind : List Char}
    (hplace : (userinfo user behind).IsValid) (hp : Url.IsEncoded p) {settings : Settings}
    (h : Settings.ofUrl? ((userinfo user behind).before ++ (p ++ (userinfo user behind).after)) =
      some settings) : settings.password = some (Url.percentDecode p) := by
  have hbody : (userinfo user behind).before ++ (p ++ (userinfo user behind).after) =
      (user ++ ':' :: p) ++ '@' :: behind := by
    simp [before, after]
  have hcredentials : ∀ c ∈ user ++ ':' :: p, (c == '@') = false := by
    simp only [List.forall_mem_append, List.forall_mem_cons]
    exact ⟨beq_eq_false_of_isValid hplace (by decide), rfl, hp.forall_eq_false (by decide)⟩
  rw [hbody, Settings.ofUrl?_eq_of_credentials hcredentials] at h
  obtain ⟨named, hnamed, hrest⟩ := Option.bind_eq_some_iff.mp h
  obtain ⟨mid, count, hmid, -, hread⟩ := Settings.exists_withQueryWithin? hrest
  rw [Settings.withCredentials?,
    Text.splitFirst_append (beq_eq_false_of_isValid hplace (by decide)) rfl] at hnamed
  obtain ⟨_, -, rfl⟩ := Option.map_eq_some_iff.mp hnamed
  rw [hplace.2 _ _ _ hread, hmid]
  rfl

theorem password_of_ofUrl?_parameter {front : List Char}
    {earlier : List (List Char × List Char)} {behind : List Char}
    (hplace : (parameter front earlier behind).IsValid) (hp : Url.IsEncoded p) {settings : Settings}
    (h : Settings.ofUrl? (front ++ '?' :: parametersText earlier p behind) = some settings) :
    settings.password = some (Url.percentDecode p) := by
  obtain ⟨hfront, -, hcredentials, -⟩ := id hplace
  have hplain : ∀ c ∈ front, (c == '?') = false := Settings.beq_eq_false_of_forall_ne hfront
  by_cases hmem : ∃ c ∈ front, (c == '@') = true
  · -- There are credentials in front, whatever they are.
    obtain ⟨user, c, hosts, huser, hc, rfl⟩ := Text.exists_splitFirst hmem
    obtain rfl : c = '@' := eq_of_beq hc
    rw [List.append_assoc, List.cons_append, Settings.ofUrl?_eq_of_credentials huser] at h
    obtain ⟨named, -, hrest⟩ := Option.bind_eq_some_iff.mp h
    simp only [List.forall_mem_append, List.forall_mem_cons] at hplain
    exact password_of_behindCredentials? hplace hp hplain.2.2 hrest
  · simp only [not_exists, not_and, Bool.not_eq_true] at hmem
    have hmem' : '@' ∉ front := fun hat => absurd (hmem _ hat) (by decide)
    obtain ⟨hearlier, hbehind⟩ := hcredentials.resolve_left hmem'
    have hnone : ∀ c ∈ front ++ '?' :: parametersText earlier p behind, (c == '@') = false := by
      simp only [parametersText, Settings.parameterText, List.forall_mem_append,
        List.forall_mem_cons, List.forall_mem_flatMap]
      refine ⟨hmem, rfl, fun x hx => ?_, ⟨Settings.beq_eq_false_of_any rfl, rfl,
        hp.forall_eq_false (by decide)⟩, Settings.beq_eq_false_of_forall_ne hbehind⟩
      obtain ⟨hkeyword, hvalue⟩ := List.forall_mem_append.mp (hearlier x hx)
      exact ⟨⟨Settings.beq_eq_false_of_forall_ne hkeyword, rfl,
        Settings.beq_eq_false_of_forall_ne hvalue⟩, rfl, List.forall_mem_nil _⟩
    rw [Settings.ofUrl?_eq_of_forall hnone] at h
    exact password_of_behindCredentials? hplace hp hplain h

/-- The client takes the password that is in the place. -/
theorem password_of_parse? (hplace : place.IsValid) (hscheme : scheme ∈ Url.serverSchemes)
    (hp : Url.IsEncoded p) {settings : Settings}
    (h : Settings.parse? (place.url scheme p) = some settings) :
    settings.password = some (Url.percentDecode p) := by
  rw [Settings.parse?, url, behindScheme?_serverUrl hscheme] at h
  simp only at h
  cases place with
  | userinfo user behind => exact password_of_ofUrl?_userinfo hplace hp h
  | parameter front earlier behind =>
    rw [parameter_body] at h
    exact password_of_ofUrl?_parameter hplace hp h

/-- What is shown does not depend on a password in front of the hosts, while it shows a password
among the parameters, unless the text is no URL. -/
theorem redactUrl_eq_iff (hplace : place.IsValid) (hscheme : scheme ∈ Url.serverSchemes)
    (hp : Url.IsEncoded p) (hq : Url.IsEncoded q) :
    redactUrl (place.url scheme p) = redactUrl (place.url scheme q) ↔
      p = q ∨ place.isUserinfo ∨ Url.parse? (place.url scheme p) = none := by
  cases place with
  | userinfo user behind =>
    have huser : ∀ c ∈ user, (c == ':' || Url.SchemeKind.other.endsAuthority c) = false := by
      intro c hc
      have hne : ∀ mark ∈ [':', '@', '/', '?', '#'], (c == mark) = false :=
        fun mark hmark => beq_eq_false_of_isValid hplace hmark c hc
      simp only [List.forall_mem_cons] at hne
      obtain ⟨hcolon, -, hslash, hquestion, hhash, -⟩ := hne
      simp [Url.SchemeKind.endsAuthority, Url.SchemeKind.isSlash, hcolon, hslash, hquestion, hhash]
    obtain ⟨shown, hshown⟩ := Url.exists_redactUrl_userinfo hscheme huser behind
    have hurl (p : List Char) : (userinfo user behind).url scheme p =
        Url.serverUrl scheme (user ++ ':' :: (p ++ '@' :: behind)) := by
      simp [url, before, after]
    rw [hurl, hurl, hshown p hp, hshown q hq]
    exact iff_of_true rfl (.inr (.inl rfl))
  | parameter front earlier behind =>
    have hmem : '?' ∈ (parameter front earlier behind).before :=
      List.mem_append_right _ List.mem_cons_self
    obtain ⟨shown, hshown⟩ := Url.exists_redactUrl_query hscheme hmem behind
    have hurl (p : List Char) : (parameter front earlier behind).url scheme p =
        Url.serverUrl scheme ((parameter front earlier behind).before ++ (p ++ behind)) := rfl
    obtain ⟨hparse, hredact⟩ := hshown p hp
    rw [hurl, hurl, hredact, (hshown q hq).2]
    cases shown with
    | none =>
      refine iff_of_true rfl (.inr (.inr ?_))
      simpa using hparse
    | some shown =>
      have hsome : Url.parse? (Url.serverUrl scheme
          ((parameter front earlier behind).before ++ (p ++ behind))) ≠ none :=
        Option.isSome_iff_ne_none.mp (hparse.mpr rfl)
      simp [hsome, isUserinfo, String.ofList_inj]

/-- A password in front of the hosts does not change what is shown of a URL and of the
configurations that hold it. One among the parameters does, although the client takes it as
well. -/
theorem shown_password_iff (hplace : place.IsValid) (hscheme : scheme ∈ Url.serverSchemes)
    (hp : Url.IsEncoded p) (hq : Url.IsEncoded q) :
    (∀ settings, Settings.parse? (place.url scheme p) = some settings →
      settings.password = some (Url.percentDecode p)) ∧
    (redactUrl (place.url scheme p) = redactUrl (place.url scheme q) ↔
      p = q ∨ place.isUserinfo ∨ Url.parse? (place.url scheme p) = none) ∧
    (place.isUserinfo →
      (∀ config : ConnectionConfig, { config with url := place.url scheme p }.summary =
        { config with url := place.url scheme q }.summary) ∧
      ∀ config : ProviderConfig, { config with url := place.url scheme p }.summary =
        { config with url := place.url scheme q }.summary) := by
  have hshown := redactUrl_eq_iff hplace hscheme hp hq
  refine ⟨fun _ => password_of_parse? hplace hscheme hp, hshown, fun huserinfo => ?_⟩
  have heq := hshown.mpr (.inr (.inl huserinfo))
  constructor <;> intro config
  · simp only [ConnectionConfig.summary, heq]
  · simp only [ProviderConfig.summary, heq]

/-- A password among the parameters is shown. -/
theorem shown_password_iff_parameter :
    redactUrl "postgres://app@db/postgres?password=secret" ≠
      redactUrl "postgres://app@db/postgres?password=other" := by
  have hplace : (parameter "app@db/postgres".toList [] []).IsValid :=
    ⟨fun c hc => beq_eq_false_iff_ne.mp (Settings.beq_eq_false_of_any rfl c hc),
      List.forall_mem_nil _, .inl (by decide), .inl rfl, Settings.keepsPassword_nil⟩
  have hscheme : "postgres" ∈ Url.serverSchemes := by decide
  have hshown := (shown_password_iff hplace hscheme (p := "secret".toList) (q := "other".toList)
    ⟨by decide, List.all_eq_true.mp rfl⟩ ⟨by decide, List.all_eq_true.mp rfl⟩).2.1
  refine hshown.not.mpr ?_
  decide

end PasswordPlace

end PgConverge.Client
