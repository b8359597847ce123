import PgConverge.Proofs.Text.Split
import PgConverge.Url.Basic

/-!
# Passwords in shown URLs

A password in front of the host is hidden. Behind a question mark it is not, since what stands there
is shown as it is.

## Main definitions

* `Url.IsEncoded` — a text as URLs write it, with nothing in it that separates.
* `Url.serverUrl` — a URL for a server.

## Main statements

* `Url.parse?_serverUrl` — how the URL of a server is read around an encoded text.
* `Url.exists_redactUrl_userinfo` — a password in front of the host does not change what is shown.
* `Url.exists_redactUrl_query` — a password behind a question mark is shown, unless the text is no
  URL.
-/

namespace PgConverge.Url

/-- Letters, digits and the other characters that are never encoded, and the percent sign of those
that are. -/
def isPlainOrPercent (c : Char) : Bool :=
  c.isAlphanum || c == '-' || c == '.' || c == '_' || c == '~' || c == '%'

/-- Whether a text is one as URLs write it: not empty, and with nothing in it that separates. -/
structure IsEncoded (p : List Char) : Prop where
  ne_nil : p ≠ []
  plain : ∀ c ∈ p, isPlainOrPercent c = true

/-- The schemes of URLs for a server. -/
def serverSchemes : List String := ["postgres", "postgresql"]

theorem eq_of_mem_serverSchemes {scheme : String} (h : scheme ∈ serverSchemes) :
    scheme = "postgres" ∨ scheme = "postgresql" := by
  simpa [serverSchemes] using h

/-- A URL for a server with what follows the two slashes. -/
def serverUrl (scheme : String) (body : List Char) : String :=
  String.ofList (scheme.toList ++ "://".toList ++ body)

/-! ## Encoded texts -/

section Encoded

variable {c : Char} {p : List Char}

/-- Letters and digits are among the characters up to the letter that comes last. -/
theorem val_le_of_isAlphanum (hc : c.isAlphanum = true) : c.val ≤ 'z'.val := by
  rcases Bool.or_eq_true_iff.mp hc with halpha | hdigit
  · rcases Bool.or_eq_true_iff.mp halpha with hupper | hlower
    · exact UInt32.le_trans (of_decide_eq_true hupper).2 (by decide)
    · exact of_decide_eq_true (Bool.and_eq_true_iff.mp hlower).2
  · exact UInt32.le_trans (of_decide_eq_true (Bool.and_eq_true_iff.mp hdigit).2) (by decide)

theorem toNat_lt_of_isPlainOrPercent (hc : isPlainOrPercent c = true) : c.toNat < 128 := by
  simp only [isPlainOrPercent, Bool.or_eq_true, beq_iff_eq] at hc
  rcases hc with ((((halphanum | rfl) | rfl) | rfl) | rfl) | rfl
  · have hle := UInt32.le_iff_toNat_le.mp (val_le_of_isAlphanum halphanum)
    have hlast : 'z'.val.toNat = 122 := rfl
    have hval : c.val.toNat = c.toNat := rfl
    omega
  all_goals decide

/-- What holds of each of these characters can be checked one by one. -/
theorem eq_false_of_isPlainOrPercent {q : Char → Bool} (hc : isPlainOrPercent c = true)
    (hq : ∀ n < 128, isPlainOrPercent (Char.ofNat n) = true → q (Char.ofNat n) = false) :
    q c = false := by
  have h := hq c.toNat (toNat_lt_of_isPlainOrPercent hc)
  rw [Char.ofNat_toNat] at h
  exact h hc

theorem IsEncoded.forall_eq_false (hp : IsEncoded p) {q : Char → Bool}
    (hq : ∀ n < 128, isPlainOrPercent (Char.ofNat n) = true → q (Char.ofNat n) = false) :
    ∀ c ∈ p, q c = false :=
  fun c hc => eq_false_of_isPlainOrPercent (hp.plain c hc) hq

theorem IsEncoded.isIgnored_eq_false (hp : IsEncoded p) : ∀ c ∈ p, isIgnored c = false :=
  hp.forall_eq_false (by decide)

theorem IsEncoded.isOuter_eq_false (hp : IsEncoded p) : ∀ c ∈ p, isOuter c = false :=
  hp.forall_eq_false (by decide)

theorem IsEncoded.endsAuthority_eq_false (hp : IsEncoded p) :
    ∀ c ∈ p, SchemeKind.other.endsAuthority c = false :=
  hp.forall_eq_false (by decide)

theorem percentEncode_append (set : Char → Bool) (s rest : List Char) :
    percentEncode set (s ++ rest) = percentEncode set s ++ percentEncode set rest :=
  List.flatMap_append

theorem percentEncode_eq_self {set : Char → Bool}
    (hp : ∀ c ∈ p, (isAlwaysEncoded c || set c) = false) : percentEncode set p = p := by
  induction p with
  | nil => rfl
  | cons c p ih =>
    obtain ⟨hc, hp⟩ := List.forall_mem_cons.mp hp
    rw [← List.singleton_append, percentEncode_append, ih hp, percentEncode,
      List.flatMap_singleton, if_neg (ne_true_of_eq_false hc)]

theorem IsEncoded.percentEncode_inQuery (hp : IsEncoded p) : percentEncode inQuery p = p :=
  percentEncode_eq_self (hp.forall_eq_false (by decide))

theorem IsEncoded.percentEncode_inFragment (hp : IsEncoded p) : percentEncode inFragment p = p :=
  percentEncode_eq_self (hp.forall_eq_false (by decide))

end Encoded

/-! ## Reading the URL of a server -/

/-- The end of a URL, without the characters that are dropped. -/
def cleanEnd (s : List Char) : List Char :=
  ((s.reverse.dropWhile isOuter).reverse).filter (!isIgnored ·)

/-- Nothing is dropped of what starts with a character that stays. -/
theorem dropWhile_append_of_eq_self {drops : Char → Bool} {s rest : List Char}
    (hrest : rest.dropWhile drops = rest) :
    (s ++ rest).dropWhile drops = s.dropWhile drops ++ rest := by
  rw [List.dropWhile_append]
  split
  · rename_i hempty
    rw [List.isEmpty_iff.mp hempty, hrest, List.nil_append]
  · rfl

theorem cleanEnd_cons {c : Char} (houter : isOuter c = false) (hignored : isIgnored c = false)
    (s : List Char) : cleanEnd (c :: s) = c :: cleanEnd s := by
  have hdrop : [c].dropWhile isOuter = [c] :=
    List.dropWhile_cons_of_neg (ne_true_of_eq_false houter)
  rw [cleanEnd, List.reverse_cons, dropWhile_append_of_eq_self hdrop]
  simp [cleanEnd, hignored]

/-- Controls and spaces are dropped behind an encoded text only. -/
theorem reverse_dropWhile_reverse {p : List Char} (hp : IsEncoded p) (front behind : List Char) :
    ((front ++ (p ++ behind)).reverse.dropWhile isOuter).reverse =
      front ++ (p ++ (behind.reverse.dropWhile isOuter).reverse) := by
  have hdrop : (p.reverse ++ front.reverse).dropWhile isOuter = p.reverse ++ front.reverse := by
    obtain ⟨last, more, hlast⟩ := List.exists_cons_of_ne_nil (List.reverse_ne_nil_iff.mpr hp.ne_nil)
    have houter : isOuter last = false :=
      hp.isOuter_eq_false last (List.mem_reverse.mp (hlast ▸ List.mem_cons_self))
    rw [hlast, List.cons_append, List.dropWhile_cons_of_neg (ne_true_of_eq_false houter)]
  rw [List.reverse_append, List.reverse_append, List.append_assoc,
    dropWhile_append_of_eq_self hdrop]
  simp

section Scheme

variable {scheme : String} (hscheme : scheme ∈ serverSchemes)

include hscheme

theorem takeScheme?_serverUrl (s : List Char) :
    takeScheme? (scheme.toList ++ "://".toList ++ s) = some (scheme.toList, '/' :: '/' :: s) := by
  rcases eq_of_mem_serverSchemes hscheme with rfl | rfl <;> rfl

theorem schemeKind_server : SchemeKind.of scheme.toList = .other := by
  rcases eq_of_mem_serverSchemes hscheme with rfl | rfl <;> rfl

theorem dropWhile_serverUrl (s : List Char) :
    (scheme.toList ++ "://".toList ++ s).dropWhile isOuter =
      scheme.toList ++ "://".toList ++ s := by
  rcases eq_of_mem_serverSchemes hscheme with rfl | rfl <;> rfl

theorem filter_serverUrl :
    (scheme.toList ++ "://".toList).filter (!isIgnored ·) = scheme.toList ++ "://".toList := by
  rcases eq_of_mem_serverSchemes hscheme with rfl | rfl <;> rfl

/-- An encoded text stays as it is when a URL around it is read. -/
theorem parse?_serverUrl {p : List Char} (hp : IsEncoded p) (front behind : List Char) :
    parse? (serverUrl scheme (front ++ (p ++ behind))) =
      parseAuthority? scheme.toList .other
        (front.filter (!isIgnored ·) ++ (p ++ cleanEnd behind)) := by
  have hclean : p.filter (!isIgnored ·) = p := by
    rw [List.filter_eq_self]
    intro c hc
    rw [hp.isIgnored_eq_false c hc]
    rfl
  have htrim : trimmed (scheme.toList ++ "://".toList ++ (front ++ (p ++ behind))) =
      scheme.toList ++ "://".toList ++
        (front ++ (p ++ (behind.reverse.dropWhile isOuter).reverse)) := by
    rw [trimmed, dropWhile_serverUrl hscheme, ← List.append_assoc _ front,
      reverse_dropWhile_reverse hp, List.append_assoc _ front]
  have hkind := schemeKind_server hscheme
  rw [parse?, serverUrl, String.toList_ofList, htrim, List.filter_append, filter_serverUrl hscheme,
    takeScheme?_serverUrl hscheme, List.filter_append, List.filter_append, hclean]
  simp only [Option.bind_eq_bind, Option.bind_some, hkind, parseBehindScheme?, behindTwoSlashes?,
    cleanEnd]
  rfl

end Scheme

/-! ## A password in front of the host -/

/-- What is read behind credentials with a password. -/
def takeBehindPassword? (scheme : List Char) (kind : SchemeKind) (s : List Char) :
    Option (List Char × Option Nat × List Char) := do
  let (host, s) := takeHost false s
  if host.isEmpty then none
  let host ← hostOf? kind host
  let (port, s) ← takePort? scheme s
  return (host, port, s)

theorem exists_takeAuthority?_userinfo (scheme : List Char) (kind : SchemeKind) (isLast : Bool)
    {user : List Char} (huser : ∀ c ∈ user, (c == ':') = false) (front : List Char) :
    ∃ more host, ∀ p, p ≠ [] →
      takeAuthority? scheme kind isLast (user ++ ':' :: (p ++ '@' :: front)) =
        (takeBehindPassword? scheme kind host).map fun x =>
          (⟨percentEncode inUserinfo user, some (percentEncode inUserinfo (p ++ more)), x.1, x.2.1⟩,
            x.2.2) := by
  obtain ⟨more, host, hlast⟩ := Text.exists_splitLast_cons (· == '@') (c := '@') rfl front
  refine ⟨more, host, fun p hp => ?_⟩
  have hsplit : Text.splitLast (· == '@') (user ++ ':' :: (p ++ '@' :: front)) =
      (some (user ++ ':' :: (p ++ more)), host) := by
    have happend := Text.splitLast_append (s := user ++ ':' :: p) hlast
    simpa using happend
  have hcredentials : credentials (user ++ ':' :: (p ++ more)) =
      (percentEncode inUserinfo user, some (percentEncode inUserinfo (p ++ more))) := by
    rw [credentials, Text.splitFirst_append huser rfl]
    obtain ⟨c, p, rfl⟩ := List.exists_cons_of_ne_nil hp
    rfl
  rw [takeAuthority?, hsplit, takeBehindPassword?]
  simp only [Option.getD_some, hcredentials]
  obtain ⟨name, s⟩ := takeHost false host
  by_cases hname : name.isEmpty
  · simp [hname]
  · cases hostOf? kind name with
    | none => simp [hname]
    | some host => cases takePort? scheme s <;> simp [hname]

/-- A password in front of the host changes nothing else. -/
theorem exists_parseAuthority?_userinfo (scheme : List Char) {user : List Char}
    (huser : ∀ c ∈ user, (c == ':' || SchemeKind.other.endsAuthority c) = false)
    (behind : List Char) :
    ∃ shown, ∀ p, IsEncoded p →
      (parseAuthority? scheme .other (user ++ ':' :: (p ++ '@' :: behind))).map redacted =
        shown := by
  rcases hbehind : Text.splitBefore SchemeKind.other.endsAuthority behind with ⟨front, rest⟩
  obtain ⟨more, host, htake⟩ := exists_takeAuthority?_userinfo scheme .other rest.isEmpty
    (fun c hc => (Bool.or_eq_false_iff.mp (huser c hc)).1) front
  refine ⟨(takeBehindPassword? scheme .other host).map fun x =>
    let parts := takeQuery .other (x.2.2 ++ rest)
    ⟨scheme, some ⟨percentEncode inUserinfo user, some mask, x.1, x.2.1⟩,
      pathBehindAuthority .other parts.1, parts.2.1, parts.2.2⟩, fun p hp => ?_⟩
  have hfront : Text.splitBefore SchemeKind.other.endsAuthority
      (user ++ ':' :: (p ++ '@' :: behind)) = (user ++ ':' :: (p ++ '@' :: front), rest) := by
    have hends : ∀ c ∈ user ++ ':' :: (p ++ ['@']), SchemeKind.other.endsAuthority c = false := by
      simp only [List.forall_mem_append, List.forall_mem_cons]
      exact ⟨fun c hc => (Bool.or_eq_false_iff.mp (huser c hc)).2, rfl, hp.endsAuthority_eq_false,
        rfl, List.forall_mem_nil _⟩
    have happend : Text.splitBefore _ ((user ++ ':' :: (p ++ ['@'])) ++ behind) = _ :=
      Text.splitBefore_append_of_forall hends
    rw [hbehind] at happend
    simpa using happend
  rw [parseAuthority?, hfront]
  simp only [htake p hp.ne_nil]
  cases takeBehindPassword? scheme .other host with
  | none => rfl
  | some x => rfl

theorem redactUrl_eq (s : String) :
    redactUrl s = (((parse? s).map redacted).map text).getD (String.ofList mask) := by
  rw [redactUrl]
  cases parse? s <;> rfl

/-- What is shown does not depend on a password in front of the host. -/
theorem exists_redactUrl_userinfo {scheme : String} (hscheme : scheme ∈ serverSchemes)
    {user : List Char} (huser : ∀ c ∈ user, (c == ':' || SchemeKind.other.endsAuthority c) = false)
    (behind : List Char) :
    ∃ shown, ∀ p, IsEncoded p →
      redactUrl (serverUrl scheme (user ++ ':' :: (p ++ '@' :: behind))) = shown := by
  obtain ⟨shown, hshown⟩ := exists_parseAuthority?_userinfo scheme.toList
    (fun c hc => huser c (List.mem_filter.mp hc).1) (cleanEnd behind)
  refine ⟨(shown.map text).getD (String.ofList mask), fun p hp => ?_⟩
  have hparse := parse?_serverUrl hscheme hp (user ++ [':']) ('@' :: behind)
  rw [List.filter_append, cleanEnd_cons rfl rfl, List.append_assoc, List.append_assoc] at hparse
  rw [redactUrl_eq, ← hshown p hp]
  exact congrArg (fun u => ((u.map redacted).map text).getD (String.ofList mask)) hparse

/-! ## A password behind a question mark -/

/-- The text of a query and a fragment. -/
def behindPath (query fragment : Option (List Char)) : List Char :=
  query.elim [] (fun query => '?' :: query) ++ fragment.elim [] fun fragment => '#' :: fragment

/-- What stands behind a question mark is shown as it is. -/
theorem exists_takeQuery {front : List Char} (hfront : '?' ∈ front) (behind : List Char) :
    ∃ path shown rest, ∀ p, IsEncoded p → ∃ query fragment,
      takeQuery .other (front ++ (p ++ behind)) = (path, query, fragment) ∧
        behindPath query fragment = shown ++ (p ++ rest) := by
  by_cases hfragment : ∃ c ∈ front, (c == '#') = true
  · -- The password is in the fragment.
    obtain ⟨before, more, hsplit⟩ := Text.splitFirst_append_of_mem _ hfragment
    rcases hbefore : Text.splitFirst (· == '?') before with ⟨path, query⟩
    refine ⟨path, behindPath (query.map (percentEncode inQuery)) none ++
      '#' :: percentEncode inFragment more, percentEncode inFragment behind, fun p hp => ?_⟩
    refine ⟨query.map (percentEncode inQuery),
      some (percentEncode inFragment (more ++ (p ++ behind))), ?_, ?_⟩
    · rw [takeQuery, hsplit]
      simp only [hbefore]
      rfl
    · rw [percentEncode_append, percentEncode_append, hp.percentEncode_inFragment]
      simp [behindPath]
  · -- The password is in the query.
    simp only [not_exists, not_and, Bool.not_eq_true] at hfragment
    rcases hbehind : Text.splitFirst (· == '#') behind with ⟨rest, fragment⟩
    obtain ⟨path, more, hsplit⟩ := Text.splitFirst_append_of_mem (· == '?') ⟨'?', hfront, rfl⟩
    refine ⟨path, '?' :: percentEncode inQuery more,
      percentEncode inQuery rest ++ behindPath none (fragment.map (percentEncode inFragment)),
      fun p hp => ?_⟩
    refine ⟨some (percentEncode inQuery (more ++ (p ++ rest))),
      fragment.map (percentEncode inFragment), ?_, ?_⟩
    · have hplain : ∀ c ∈ p, (c == '#') = false := hp.forall_eq_false (by decide)
      rw [takeQuery, Text.splitFirst_append_of_forall hfragment,
        Text.splitFirst_append_of_forall hplain, hbehind]
      simp only [hsplit]
      rfl
    · rw [percentEncode_append, percentEncode_append, hp.percentEncode_inQuery]
      simp [behindPath]

theorem toList_text_redacted (u : Url) :
    u.redacted.text.toList =
      u.scheme ++ [':'] ++ (u.authority.map Authority.redacted).elim [] Authority.text ++ u.path ++
        behindPath u.query u.fragment := by
  simp [text, redacted, behindPath]

/-- What is read of a URL up to its path does not depend on what stands behind a question mark. -/
theorem exists_parseAuthority?_query (scheme : List Char) {front : List Char}
    (hfront : '?' ∈ front) (behind : List Char) :
    ∃ shown : Option (List Char × List Char), ∀ p, IsEncoded p →
      (parseAuthority? scheme .other (front ++ (p ++ behind))).map (fun u => u.redacted.text) =
        shown.map fun x => String.ofList (x.1 ++ (p ++ x.2)) := by
  obtain ⟨before, c, more, rfl, hbefore, -, hsplit⟩ :=
    Text.splitBefore_append_of_mem SchemeKind.other.endsAuthority ⟨'?', hfront, rfl⟩
  cases hauthority : takeAuthority? scheme .other false before with
  | none =>
    refine ⟨none, fun p hp => ?_⟩
    rw [parseAuthority?, hsplit]
    simp [hauthority]
  | some taken =>
    obtain ⟨authority, gap⟩ := taken
    have hmem : '?' ∈ gap ++ c :: more := by
      refine List.mem_append_right _ ((List.mem_append.mp hfront).resolve_left fun hmem => ?_)
      cases hbefore '?' hmem
    obtain ⟨path, shown, rest, hquery⟩ := exists_takeQuery hmem behind
    refine ⟨some (scheme ++ [':'] ++ authority.redacted.text ++ pathBehindAuthority .other path ++
      shown, rest), fun p hp => ?_⟩
    obtain ⟨query, fragment, htake, hshown⟩ := hquery p hp
    rw [List.append_assoc, List.cons_append] at htake
    rw [parseAuthority?, hsplit]
    simp only [List.isEmpty_cons, hauthority, Option.bind_eq_bind, Option.bind_some, htake]
    simp only [Option.pure_def, Option.map_some, Option.some.injEq]
    rw [← String.toList_inj, toList_text_redacted, hshown]
    simp

/-- What stands behind a question mark is shown, unless the text is no URL. -/
theorem exists_redactUrl_query {scheme : String} (hscheme : scheme ∈ serverSchemes)
    {front : List Char} (hfront : '?' ∈ front) (behind : List Char) :
    ∃ shown : Option (List Char × List Char), ∀ p, IsEncoded p →
      ((parse? (serverUrl scheme (front ++ (p ++ behind)))).isSome ↔ shown.isSome) ∧
      redactUrl (serverUrl scheme (front ++ (p ++ behind))) =
        shown.elim (String.ofList mask) fun x => String.ofList (x.1 ++ (p ++ x.2)) := by
  have hmem : '?' ∈ front.filter (!isIgnored ·) := List.mem_filter.mpr ⟨hfront, rfl⟩
  obtain ⟨shown, hshown⟩ := exists_parseAuthority?_query scheme.toList hmem (cleanEnd behind)
  refine ⟨shown, fun p hp => ?_⟩
  have hparse := hshown p hp
  rw [← parse?_serverUrl hscheme hp] at hparse
  constructor
  · rw [← Option.isSome_map, hparse, Option.isSome_map]
  · rw [redactUrl_eq, Option.map_map]
    refine (congrArg (fun text => text.getD (String.ofList mask)) hparse).trans ?_
    cases shown <;> rfl

end PgConverge.Url
