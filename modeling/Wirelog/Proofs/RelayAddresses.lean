import Wirelog.Forward.Relay
import Wirelog.Proofs.AuthorityLaws

/-! Addresses of proxies that are read from their own text. Blanks are taken off before the schemes
are, so a host may begin with a blank that stood behind a scheme. When the text of the address is
read again this blank is in front, and it goes, with any scheme behind it. A host that does not
begin with a blank is read again as it is. -/
namespace Wirelog.RelayAddresses
open Text DigitRows AuthorityLaws Forward Forward.Relay

/-! ## Leading parts -/

section Leads
variable {lead : List Char}

theorem dropPrefix_length {s rest : List Char} (filled : lead ≠ [])
    (found : dropPrefix? lead s = some rest) : rest.length < s.length := by
  have whole := congrArg List.length (eq_of_dropPrefix found)
  rw [List.length_append] at whole
  have := List.length_pos_iff.mpr filled
  omega

/-- What begins with something is not shortened by a part that it does not begin with. -/
theorem dropPrefix_front {s : List Char} (t : List Char)
    (front : dropPrefix? lead (s ++ t) = none) :
    dropPrefix? lead s = none := by
  cases found : dropPrefix? lead s with
  | none => rfl
  | some rest =>
    rw [eq_of_dropPrefix found, List.append_assoc, dropPrefix_append] at front
    cases front

/-- A part that ends with a character is not found across a text without this character. -/
theorem dropPrefix_across {mark : Char} {t : List Char} (free : mark ∉ t) (part s : List Char) :
    dropPrefix? (part ++ [mark]) (s ++ t) = (dropPrefix? (part ++ [mark]) s).map (· ++ t) := by
  cases found : dropPrefix? (part ++ [mark]) s with
  | some rest =>
    rw [eq_of_dropPrefix found, List.append_assoc, dropPrefix_append]
    rfl
  | none =>
    cases across : dropPrefix? (part ++ [mark]) (s ++ t) with
    | none => rfl
    | some rest =>
      exfalso
      have ends := List.append_eq_append_iff.mp (eq_of_dropPrefix across)
      rcases ends with ⟨more, whole, behind⟩ | ⟨more, whole, -⟩
      · -- The part ends behind the text, and so does its last character.
        rcases List.eq_nil_or_concat more with rfl | ⟨inner, c, rfl⟩
        · rw [List.append_nil] at whole
          have here := dropPrefix_append (part ++ [mark]) []
          rw [List.append_nil] at here
          rw [← whole, here] at found
          cases found
        · rw [List.concat_eq_append, ← List.append_assoc] at whole
          obtain ⟨-, last⟩ := List.append_inj' whole rfl
          obtain rfl : mark = c := List.singleton_inj.mp last
          apply free
          rw [behind]
          simp
      · rw [whole, dropPrefix_append] at found
        cases found

/-- Enough fuel is as good as more. -/
theorem dropAll_fuel (filled : lead ≠ []) {m n : Nat} {s : List Char} (enough : s.length ≤ m)
    (plenty : s.length ≤ n) : dropAll lead m s = dropAll lead n s := by
  have nothing : dropPrefix? lead [] = none := by
    cases lead with
    | nil => exact absurd rfl filled
    | cons c lead => rfl
  induction m generalizing n s with
  | zero =>
    obtain rfl := List.eq_nil_of_length_eq_zero (Nat.le_zero.mp enough)
    cases n with
    | zero => rfl
    | succ n => rw [dropAll, dropAll, nothing]
  | succ m ih =>
    cases n with
    | zero =>
      obtain rfl := List.eq_nil_of_length_eq_zero (Nat.le_zero.mp plenty)
      rw [dropAll, dropAll, nothing]
    | succ n =>
      rw [dropAll, dropAll]
      cases found : dropPrefix? lead s with
      | none => rfl
      | some rest =>
        have shorter := dropPrefix_length filled found
        exact ih (by omega) (by omega)

/-- With enough fuel nothing to drop is left. -/
theorem dropAll_stops (filled : lead ≠ []) {n : Nat} {s : List Char} (enough : s.length ≤ n) :
    dropPrefix? lead (dropAll lead n s) = none := by
  induction n generalizing s with
  | zero =>
    obtain rfl := List.eq_nil_of_length_eq_zero (Nat.le_zero.mp enough)
    cases lead with
    | nil => exact absurd rfl filled
    | cons c lead => rfl
  | succ n ih =>
    rw [dropAll]
    cases found : dropPrefix? lead s with
    | none => exact found
    | some rest =>
      have shorter := dropPrefix_length filled found
      exact ih (by omega)

theorem dropAll_none {s : List Char} (none : dropPrefix? lead s = none) (n : Nat) :
    dropAll lead n s = s := by
  cases n with
  | zero => rfl
  | succ n => rw [dropAll, none]

theorem dropAll_suffix (n : Nat) (s : List Char) : dropAll lead n s <:+ s := by
  induction n generalizing s with
  | zero => exact List.suffix_refl s
  | succ n ih =>
    rw [dropAll]
    cases found : dropPrefix? lead s with
    | none => exact List.suffix_refl s
    | some rest =>
      rw [eq_of_dropPrefix found]
      exact (ih rest).trans (List.suffix_append lead rest)

theorem dropAll_across {mark : Char} {t : List Char} (free : mark ∉ t) (part : List Char) (n : Nat)
    (s : List Char) :
    dropAll (part ++ [mark]) n (s ++ t) = dropAll (part ++ [mark]) n s ++ t := by
  induction n generalizing s with
  | zero => rfl
  | succ n ih =>
    rw [dropAll, dropAll, dropPrefix_across free]
    cases found : dropPrefix? (part ++ [mark]) s with
    | none => rfl
    | some rest => exact ih rest

end Leads

/-! ## Blanks and slashes -/

theorem dropTail_last {p : Char → Bool} {c : Char} (outside : p c = false) (s : List Char) :
    dropTail p (s ++ [c]) = s ++ [c] := by
  rw [dropTail, List.reverse_append]
  have kept : (c :: s.reverse).dropWhile p = c :: s.reverse :=
    dropWhile_stops (stops_cons s.reverse outside)
  rw [List.reverse_singleton, List.singleton_append, kept, List.reverse_cons, List.reverse_reverse]

theorem dropTail_front (p : Char → Bool) (s : List Char) : dropTail p s <+: s := by
  have suffix : s.reverse.dropWhile p <:+ s.reverse := List.dropWhile_suffix p
  rw [dropTail, ← List.reverse_suffix, List.reverse_reverse]
  exact suffix

/-- A port behind a host, as the text of an address has it. -/
def portText (port : UInt16) : List Char :=
  ':' :: Nat.toDigits 10 port.toNat

theorem portText_ends (port : UInt16) :
    ∃ front c, portText port = front ++ [c] ∧ c.isDigit = true := by
  rcases List.eq_nil_or_concat (Nat.toDigits 10 port.toNat) with none | ⟨front, c, row⟩
  · exact absurd none Nat.toDigits_ne_nil
  · refine ⟨':' :: front, c, ?_, ?_⟩
    · rw [portText, row, List.concat_eq_append, List.cons_append]
    · refine toDigits_isDigit port.toNat c ?_
      rw [row, List.concat_eq_append]
      exact List.mem_append_right _ (List.mem_singleton.mpr rfl)

theorem dropLead_port (host : List Char) (port : UInt16) :
    dropLead isBlank (host ++ portText port) = dropLead isBlank host ++ portText port := by
  have stays : (portText port).dropWhile isBlank = portText port :=
    dropWhile_stops (stops_cons _ rfl)
  rw [dropLead, List.dropWhile_append, stays]
  split
  · rename_i gone
    rw [dropLead, List.isEmpty_iff.mp gone, List.nil_append]
  · rfl

/-! ## Reading an address -/

/-- The scheme that an address may be dressed up with. -/
def scheme : List Char :=
  "http://".toList

/-- A host without blanks and schemes in front. -/
def undressed (host : List Char) : List Char :=
  dropAll scheme host.length (dropLead isBlank host)

private theorem scheme_marked : scheme = "http:/".toList ++ ['/'] := by
  decide

theorem scheme_filled : scheme ≠ [] := by
  decide

theorem bare_port (host : List Char) (port : UInt16) :
    bare (host ++ portText port) = undressed host ++ portText port := by
  obtain ⟨front, c, row, digit⟩ := portText_ends port
  have noSlash : '/' ∉ portText port := by
    rw [portText, List.mem_cons, not_or]
    refine ⟨by decide, fun slash => ?_⟩
    cases toDigits_isDigit _ _ slash
  have visible : isBlank c = false := isBlank_isDigit digit
  have untouched (s : List Char) : dropTail (· == '/') (s ++ [c]) = s ++ [c] := by
    refine dropTail_last (p := (· == '/')) (beq_false_of_ne ?_) s
    rintro rfl
    cases digit
  have trimmed : trimList (host ++ portText port) = dropLead isBlank host ++ portText port := by
    rw [trimList, dropLead_port, row, ← List.append_assoc, dropTail_last visible]
  have stripped (n : Nat) : dropAll scheme n (dropLead isBlank host ++ portText port) =
      dropAll scheme n (dropLead isBlank host) ++ portText port := by
    rw [scheme_marked, dropAll_across noSlash]
  have shorter : (dropLead isBlank host).length ≤ host.length :=
    (List.dropWhile_suffix isBlank).length_le
  change dropTail (· == '/') (dropAll scheme (trimList (host ++ portText port)).length
    (trimList (host ++ portText port))) = _
  rw [trimmed, stripped, row, ← List.append_assoc, untouched, List.append_assoc, undressed,
    dropAll_fuel scheme_filled _ shorter]
  simp

/-! ## What is read -/

variable {text : String} {r : Relay}

/-- An address as addresses are read: there is a host, which begins with no scheme, and a port. -/
structure IsRead (r : Relay) : Prop where
  filled : r.host.toList ≠ []
  port : r.port ≠ 0
  unschemed : dropPrefix? scheme r.host.toList = none

theorem isRead_of_parse (read : parse text = .ok r) : IsRead r := by
  rw [parse] at read
  split at read
  · cases read
  · rename_i host digits cut
    split at read
    · cases read
    · rename_i port number
      split at read
      · cases read
      · rename_i proper
        obtain ⟨filled, positive⟩ := not_or.mp proper
        cases read
        have value : (UInt16.ofNat port).toNat = port :=
          UInt16.toNat_ofNat_of_lt (word_iff.mp number).2
        constructor
        case filled => simpa using filled
        case port =>
          intro zero
          have : (UInt16.ofNat port).toNat = 0 := congrArg UInt16.toNat zero
          exact positive (value.symm.trans this)
        case unschemed =>
          rw [String.toList_ofList]
          have stops : dropPrefix? scheme (dropAll scheme _ (trimList text.toList)) = none :=
            dropAll_stops scheme_filled (Nat.le_refl _)
          have whole : dropTail (· == '/') (dropAll scheme _ (trimList text.toList)) =
            host ++ ':' :: digits := eq_of_cutLast cut
          obtain ⟨slashes, parts⟩ := dropTail_front (· == '/') (dropAll scheme
            (trimList text.toList).length (trimList text.toList))
          rw [← parts, whole] at stops
          exact dropPrefix_front _ (dropPrefix_front _ stops)

theorem toList_text (r : Relay) : r.text.toList = r.host.toList ++ portText r.port := by
  simp [Relay.text, portText, natText]

/-- The text of an address is read as an address with the same port. -/
theorem parse_text (port : r.port ≠ 0) : parse r.text =
    if (undressed r.host.toList).isEmpty then
      .error (refuse ("'" ++ r.text ++ "' is not host:port"))
    else .ok ⟨String.ofList (undressed r.host.toList), r.port⟩ := by
  have free : ':' ∉ Nat.toDigits 10 r.port.toNat := by
    intro colon
    cases toDigits_isDigit _ _ colon
  have positive : r.port.toNat ≠ 0 := fun zero => port (UInt16.toNat_inj.mp zero)
  have cut : cutLast ':' (undressed r.host.toList ++ portText r.port) =
      some (undressed r.host.toList, Nat.toDigits 10 r.port.toNat) := cutLast_append _ free
  have number : word? 16 (Nat.toDigits 10 r.port.toNat) = some r.port.toNat :=
    (word_toDigits 16 r.port.toNat).trans (if_pos r.port.toNat_lt)
  rw [parse, toList_text, bare_port, cut]
  dsimp only
  rw [number]
  simp [positive]

/-- A host in front of which there is nothing to drop. -/
theorem undressed_eq_iff {host : List Char}
    (unschemed : dropPrefix? scheme host = none) :
    undressed host = host ↔ Stops isBlank host := by
  constructor
  · intro same c first
    refine eq_false_of_ne_true fun blank => ?_
    obtain ⟨rest, rfl⟩ := List.head?_eq_some_iff.mp first
    have dropped : dropLead isBlank (c :: rest) = dropLead isBlank rest := by
      rw [dropLead, List.dropWhile_cons_of_pos blank, dropLead]
    have short : (undressed (c :: rest)).length ≤ (dropLead isBlank (c :: rest)).length :=
      (dropAll_suffix _ _).length_le
    have shorter := (List.dropWhile_suffix (l := rest) isBlank).length_le
    rw [same, dropped] at short
    exact Nat.lt_irrefl _ (Nat.le_trans short shorter)
  · intro stops
    rw [undressed, dropLead_stops stops, dropAll_none unschemed]

/-- How an address is read from its own text. -/
structure ReadAgain (r : Relay) : Prop where
  filled : r.host ≠ ""
  positive : 1 ≤ r.port.toNat
  most : r.port.toNat ≤ 65535
  again : parse r.text = if (undressed r.host.toList).isEmpty then
      .error (refuse ("'" ++ r.text ++ "' is not host:port"))
    else .ok ⟨String.ofList (undressed r.host.toList), r.port⟩
  same : parse r.text = .ok r ↔ Stops isBlank r.host.toList

/-- An address that was read has a host and a port, and it is read again just as it is unless its
host begins with a blank. -/
theorem addresses_are_read_again (read : parse text = .ok r) : ReadAgain r := by
  obtain ⟨filled, port, unschemed⟩ := isRead_of_parse read
  have again := parse_text port
  constructor
  case filled =>
    intro empty
    exact filled (String.toList_eq_nil_iff.mpr empty)
  case positive => exact Nat.pos_of_ne_zero fun zero => port (UInt16.toNat_inj.mp zero)
  case most => exact Nat.le_of_lt_succ r.port.toNat_lt
  case again => exact again
  case same =>
    rw [again, ← undressed_eq_iff unschemed]
    constructor
    · intro same
      split at same
      · cases same
      · have host := congrArg (fun x => (Relay.host x).toList) (Except.ok.inj same)
        simpa only [String.toList_ofList] using host
    · intro same
      rw [same, if_neg (by simpa using filled), String.ofList_toList]

theorem dressed_address_is_read_again :
    parse " http://http://[::1]:8080// " = .ok ⟨"[::1]", 8080⟩ ∧
      parse "[::1]:8080" = .ok ⟨"[::1]", 8080⟩ := by
  have read : parse " http://http://[::1]:8080// " = .ok ⟨"[::1]", 8080⟩ := by rfl
  have again := addresses_are_read_again read
  have unblanked : Stops isBlank "[::1]".toList := stops_cons _ rfl
  exact ⟨read, again.same.mpr unblanked⟩

/-- A blank behind the scheme stays in front of the host, and is gone when the address is read from
its text. -/
theorem blank_behind_scheme_is_lost :
    parse "http:// h:80" = .ok ⟨" h", 80⟩ ∧ parse (Relay.text ⟨" h", 80⟩) = .ok ⟨"h", 80⟩ ∧
      (⟨"h", 80⟩ : Relay) ≠ ⟨" h", 80⟩ :=
  ⟨rfl, rfl, by decide⟩

end Wirelog.RelayAddresses
