import Wirelog.Proofs.AuthorityLaws

/-! Full URLs. The text of one is put together from a scheme, an authority and a path, and it is
read back as these parts unless it is too long. So a request for a site that names only a path gets
the URL of the site with this path, less a port that goes without saying. -/
namespace Wirelog.FullUrls
open Text Http Http.Uri DigitRows AuthorityLaws

/-! ## Paths -/

/-- A path with a query that reads as it is written. -/
structure Legible (p : PathQuery) : Prop where
  path : ∀ c ∈ p.path.toList, isPathChar c = true ∧ (c != '?' && c != '#') = true
  query : ∀ q, p.query = some q → ∀ c ∈ q.toList, isQueryChar c = true ∧ (c != '#') = true

theorem legible_of_read {s : List Char} {p : PathQuery} (read : readPathQuery s = some p) :
    Legible p := by
  have path {c : Char} (valid : (s.takeWhile fun c => c != '?' && c != '#').all isPathChar = true)
      (member : c ∈ s.takeWhile fun c => c != '?' && c != '#') :
      isPathChar c = true ∧ (c != '?' && c != '#') = true :=
    ⟨List.all_eq_true.mp valid c member, List.all_eq_true.mp List.all_takeWhile c member⟩
  simp only [readPathQuery, Bool.not_eq_true'] at read
  split at read
  · cases read
  · rename_i valid
    replace valid := eq_true_of_ne_false valid
    split at read
    · split at read
      · rename_i query
        cases read
        refine ⟨by simpa using fun c => path valid, ?_⟩
        rintro q ⟨⟩ c member
        rw [String.toList_ofList] at member
        exact ⟨List.all_eq_true.mp query c member,
          List.all_eq_true.mp List.all_takeWhile c member⟩
      · cases read
    · cases read
      exact ⟨by simpa using fun c => path valid, nofun⟩

theorem takeWhile_whole {p : Char → Bool} {row : List Char}
    (inside : ∀ c ∈ row, p c = true) : row.takeWhile p = row := by
  have whole : (row ++ []).takeWhile p = row := takeWhile_row inside stops_nil
  rwa [List.append_nil] at whole

theorem read_raw {p : PathQuery} (legible : Legible p) : readPathQuery p.raw.toList = some p := by
  rcases p with ⟨path, query⟩
  have valid : path.toList.all isPathChar = true :=
    List.all_eq_true.mpr fun c member => (legible.path c member).1
  have inside := fun c member => (legible.path c member).2
  cases query with
  | none =>
    have taken := takeWhile_whole inside
    simp only [PathQuery.raw, readPathQuery, taken, valid, List.drop_length, String.ofList_toList,
      Bool.not_true, Bool.false_eq_true, ↓reduceIte]
  | some q =>
    have taken := takeWhile_row inside (stops_cons q.toList (c := '?') rfl)
    have asked : q.toList.all isQueryChar = true :=
      List.all_eq_true.mpr fun c member => (legible.query q rfl c member).1
    have whole := takeWhile_whole fun c member => (legible.query q rfl c member).2
    have text : (path ++ "?" ++ q).toList = path.toList ++ '?' :: q.toList := by simp
    simp only [PathQuery.raw, readPathQuery, text, taken, valid, List.drop_left, whole, asked,
      String.ofList_toList, Bool.not_true, Bool.false_eq_true, ↓reduceIte]

theorem path_of_read {s : List Char} {p : PathQuery} (read : readPathQuery s = some p) :
    p.path.toList = s.takeWhile fun c => c != '?' && c != '#' := by
  simp only [readPathQuery] at read
  split at read
  · cases read
  · split at read
    · split at read
      · cases read
        exact String.toList_ofList
      · cases read
    · cases read
      exact String.toList_ofList

/-- A fragment is not read. -/
theorem raw_leads {s : List Char} {p : PathQuery} (read : readPathQuery s = some p) :
    p.raw.toList <+: s := by
  have lead : s.takeWhile (fun c => c != '?' && c != '#') <+: s := List.takeWhile_prefix _
  simp only [readPathQuery] at read
  generalize s.takeWhile (fun c => c != '?' && c != '#') = path at read lead
  split at read
  · cases read
  · split at read
    · rename_i tail rest
      split at read
      · cases read
        have query : tail.takeWhile (· != '#') <+: tail := List.takeWhile_prefix _
        rw [← List.prefix_iff_eq_append.mp lead, rest]
        simpa [PathQuery.raw] using query
      · cases read
    · cases read
      simpa [PathQuery.raw] using lead

/-- A part of a text has no more octets than the whole. -/
theorem size_of_part {part whole : String} (inside : part.toList <:+: whole.toList) :
    part.utf8ByteSize ≤ whole.utf8ByteSize := by
  obtain ⟨before, behind, same⟩ := inside
  have parts : whole = String.ofList before ++ part ++ String.ofList behind := by
    rw [← String.ofList_toList (s := whole), ← same, String.ofList_append, String.ofList_append,
      String.ofList_toList]
  rw [parts, String.utf8ByteSize_append, String.utf8ByteSize_append]
  omega

/-- A target that is a path with a query. -/
structure OriginForm (u : Uri) : Prop where
  scheme : u.scheme = none
  authority : u.authority = ""
  legible : Legible u.target
  rooted : u.target.path.toList.head? = some '/'

theorem originForm_of_parse {text : String} {u : Uri} (rooted : text.toList.head? = some '/')
    (read : parse? text = some u) :
    OriginForm u ∧ readPathQuery text.toList = some u.target := by
  cases (readsAs_of_parse read).1 with
  | asterisk star => rw [star] at rooted; cases rooted
  | path _ path =>
    refine ⟨⟨rfl, rfl, legible_of_read path, ?_⟩, path⟩
    obtain ⟨rest, chars⟩ := List.head?_eq_some_iff.mp rooted
    rw [path_of_read path, chars]
    rfl
  | bare unrooted => exact absurd rooted unrooted
  | full unrooted => exact absurd rooted unrooted

/-- A path that begins at the root is written out as it is. -/
theorem path_of_rooted {p : PathQuery} (rooted : p.path.toList.head? = some '/') :
    p.pathText = p.path ∧ p.text = p.raw ∧ p.raw.toList.head? = some '/' := by
  obtain ⟨rest, chars⟩ := List.head?_eq_some_iff.mp rooted
  have raw : p.raw.toList.head? = some '/' := by
    rw [PathQuery.raw]
    split
    · simp [chars]
    · exact rooted
  have filled {s : String} (first : s.toList.head? = some '/') : s.isEmpty = false := by
    refine Bool.eq_false_iff.mpr fun empty => ?_
    rw [String.isEmpty_iff.mp empty] at first
    cases first
  refine ⟨?_, ?_, raw⟩
  · rw [PathQuery.pathText, filled rooted]
    rfl
  · rw [PathQuery.text, filled raw]
    rfl

theorem pathQueryText_originForm {u : Uri} (origin : OriginForm u) :
    u.pathQueryText = u.target.raw := by
  have whole : u.pathQuery? = some u.target := by
    simp [pathQuery?, origin.authority]
  rw [pathQueryText, whole]
  exact (path_of_rooted origin.rooted).2.1

/-! ## Putting a URL together -/

/-- The text of a full URL. -/
def fullText (scheme : Scheme) (authority path : String) : String :=
  scheme.text ++ "://" ++ authority ++ path

theorem fullText_inj {scheme : Scheme} {a b path : String}
    (same : fullText scheme a path = fullText scheme b path) : a = b := by
  have chars := congrArg String.toList same
  simp only [fullText, String.toList_append, List.append_cancel_right_eq,
    List.append_cancel_left_eq] at chars
  exact String.toList_injective chars

private theorem takeScheme_full {scheme : Scheme} (web : scheme = .http ∨ scheme = .https)
    (rest : List Char) :
    takeScheme (scheme.text.toList ++ ("://".toList ++ rest)) = .ok (some (scheme, rest)) := by
  rcases web with rfl | rfl <;> simp [takeScheme, Scheme.text, dropPrefix?]

/-- The text of a full URL is read as an authority up to where that ends, and as a path and a query
behind it, if it is not too long. -/
theorem parse_pasted {scheme : Scheme} (web : scheme = .http ∨ scheme = .https)
    (authority path : String) :
    parse? (fullText scheme authority path) =
      if (fullText scheme authority path).utf8ByteSize ≤ maxLength then
        match takeAuthority (authority.toList ++ path.toList) with
        | some (part, tail) =>
          if part.isEmpty then none
          else (readPathQuery tail).map fun p => ⟨some scheme, String.ofList part, p⟩
        | none => none
      else none := by
  have chars : (fullText scheme authority path).toList =
      scheme.text.toList ++ ("://".toList ++ (authority.toList ++ path.toList)) := by
    simp [fullText]
  have lead : ∃ rest, scheme.text.toList = 'h' :: 't' :: rest := by
    rcases web with rfl | rfl <;> exact ⟨_, rfl⟩
  obtain ⟨rest, lead⟩ := lead
  have scheme_taken := takeScheme_full web (authority.toList ++ path.toList)
  by_cases fits : (fullText scheme authority path).utf8ByteSize ≤ maxLength
  · simp only [parse?, chars, scheme_taken, fits, ↓reduceIte]
    rw [if_neg (Nat.not_lt.mpr fits), lead]
    rfl
  · rw [if_neg fits, parse?]
    exact if_pos (Nat.lt_of_not_le fits)

/-- A full URL has the parts that its text was put together from, if it is not too long. -/
theorem parse_full {scheme : Scheme} (web : scheme = .http ∨ scheme = .https)
    {authority path : String} (named : IsAuthority authority.toList)
    (rooted : path.toList.head? = some '/') :
    parse? (fullText scheme authority path) =
      if (fullText scheme authority path).utf8ByteSize ≤ maxLength then
        (readPathQuery path.toList).map fun p => ⟨some scheme, authority, p⟩
      else none := by
  have ends : Stops (fun c => !endsAuthority c) path.toList := by
    obtain ⟨tail, slash⟩ := List.head?_eq_some_iff.mp rooted
    rw [slash]
    exact stops_cons _ rfl
  have filled : authority.toList.isEmpty = false := List.isEmpty_eq_false_iff.mpr named.filled
  simp only [parse_pasted web, takeAuthority_append named ends, filled, String.ofList_toList,
    Bool.false_eq_true, ↓reduceIte]

/-- The text of a full URL is read off its parts. -/
theorem text_full {scheme : Scheme} {authority : String} {p : PathQuery}
    (rooted : p.path.toList.head? = some '/') :
    Uri.text ⟨some scheme, authority, p⟩ = fullText scheme authority p.raw := by
  have path := (path_of_rooted rooted).1
  simp only [Uri.text, pathText, Option.isNone_some, Bool.false_and, Bool.false_eq_true, ↓reduceIte,
    path, fullText, PathQuery.raw]
  cases p.query <;> simp [String.append_assoc]

variable {h : Handling} {r : Request} {s : Site}

theorem scheme_web (h : Handling) : h.scheme = .http ∨ h.scheme = .https := by
  rw [Handling.scheme]
  split
  · exact .inr rfl
  · exact .inl rfl

/-- A request for a site gets a full URL, which does not name a port that goes without saying,
unless the URL would be too long. -/
theorem fullUrl_site (origin : OriginForm r.uri) (meant : h.authorityFor r = s.authority) :
    h.fullUrl? r =
      if (fullText h.scheme (s.brief h.secure).authority r.uri.target.raw).utf8ByteSize ≤ maxLength
      then some ⟨some h.scheme, (s.brief h.secure).authority, r.uri.target⟩ else none := by
  have named := (s.brief h.secure).named
  have rooted := (path_of_rooted origin.rooted).2.2
  have text : h.fullUrlText r =
      fullText h.scheme (s.brief h.secure).authority r.uri.target.raw := by
    rw [Handling.fullUrlText, meant, dropDefaultPort_site, pathQueryText_originForm origin, fullText]
  rw [Handling.fullUrl?, origin.scheme, text, parse_full (scheme_web h) named rooted,
    read_raw origin.legible]
  rfl

end Wirelog.FullUrls
