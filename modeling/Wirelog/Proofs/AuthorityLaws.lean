import Wirelog.Gateway.Tunnel
import Wirelog.Proofs.DigitRows

/-! Authorities that name a host and perhaps a port. The characters that set their parts apart stand
in no host but in the brackets of one, so host and port are read back as they were written. Dropping
the default port of a scheme drops a port that is written in just this way, and what is left is an
authority again. -/
namespace Wirelog.AuthorityLaws
open Text Http Http.Uri DigitRows

/-! ## Cutting at the last separator -/

theorem cutFirst_free {sep : Char} {s : List Char} (free : sep ∉ s) : cutFirst sep s = none := by
  induction s with
  | nil => rfl
  | cons c rest ih =>
    obtain ⟨apart, free⟩ := List.ne_and_not_mem_of_not_mem_cons free
    simp [cutFirst, apart.symm, ih free]

theorem cutFirst_append {sep : Char} {a : List Char} (b : List Char) (free : sep ∉ a) :
    cutFirst sep (a ++ sep :: b) = some (a, b) := by
  induction a with
  | nil => simp [cutFirst]
  | cons c rest ih =>
    obtain ⟨apart, free⟩ := List.ne_and_not_mem_of_not_mem_cons free
    simp [cutFirst, apart.symm, ih free]

theorem cutLast_free {sep : Char} {s : List Char} (free : sep ∉ s) : cutLast sep s = none := by
  rw [cutLast, cutFirst_free (by simpa using free)]
  rfl

theorem cutLast_append {sep : Char} (a : List Char) {b : List Char} (free : sep ∉ b) :
    cutLast sep (a ++ sep :: b) = some (a, b) := by
  have back : (a ++ sep :: b).reverse = b.reverse ++ sep :: a.reverse := by simp
  rw [cutLast, back, cutFirst_append _ (by simpa using free)]
  simp

private theorem eq_of_cutFirst {sep : Char} {s a b : List Char}
    (cut : cutFirst sep s = some (a, b)) : s = a ++ sep :: b := by
  induction s generalizing a with
  | nil => cases cut
  | cons c rest ih =>
    rw [cutFirst] at cut
    split at cut
    · rename_i same
      cases cut
      rw [eq_of_beq same, List.nil_append]
    · obtain ⟨⟨before, after⟩, found, parts⟩ := Option.map_eq_some_iff.mp cut
      cases parts
      rw [ih found, List.cons_append]

theorem eq_of_cutLast {sep : Char} {s a b : List Char} (cut : cutLast sep s = some (a, b)) :
    s = a ++ sep :: b := by
  obtain ⟨⟨after, before⟩, found, parts⟩ := Option.map_eq_some_iff.mp cut
  cases parts
  have back := congrArg List.reverse (eq_of_cutFirst found)
  simpa using back

/-! ## Reading an authority -/

/-- A text that reads as an authority and nothing else. -/
structure IsAuthority (a : List Char) : Prop where
  filled : a ≠ []
  whole : ∀ c ∈ a, endsAuthority c = false
  scanned : ∃ scan, a.foldlM AuthorityScan.step {} = some scan ∧ scan.accepts = true

/-- An authority is read up to where it ends. -/
theorem takeAuthority_append {a tail : List Char} (authority : IsAuthority a)
    (ends : Stops (fun c => !endsAuthority c) tail) : takeAuthority (a ++ tail) = some (a, tail) := by
  obtain ⟨scan, ran, fine⟩ := authority.scanned
  have inside : ∀ c ∈ a, (!endsAuthority c) = true := by
    intro c member
    rw [authority.whole c member, Bool.not_false]
  simp only [takeAuthority, takeWhile_row inside ends, ran, fine, ↓reduceIte, List.drop_left]

theorem part_of_take {s part rest : List Char} (taken : takeAuthority s = some (part, rest)) :
    part = s.takeWhile fun c => !endsAuthority c := by
  rw [takeAuthority] at taken
  split at taken
  · split at taken
    · cases taken
      rfl
    · cases taken
  · cases taken

theorem append_of_take {s part rest : List Char} (taken : takeAuthority s = some (part, rest)) :
    s = part ++ rest := by
  rw [takeAuthority] at taken
  split at taken
  · split at taken
    · cases taken
      have lead : s.takeWhile (fun c => !endsAuthority c) <+: s := List.takeWhile_prefix _
      exact List.prefix_iff_eq_append.mp lead |>.symm
    · cases taken
  · cases taken

theorem isAuthority_of_take {s part rest : List Char}
    (taken : takeAuthority s = some (part, rest)) (filled : part.isEmpty = false) :
    IsAuthority part := by
  rw [takeAuthority] at taken
  split at taken
  · rename_i scan ran
    split at taken
    · rename_i fine
      cases taken
      refine ⟨List.isEmpty_eq_false_iff.mp filled, fun c member => ?_, scan, ran, fine⟩
      simpa using List.all_eq_true.mp List.all_takeWhile c member
    · cases taken
  · cases taken

/-- What follows an authority begins with a character that ends one. -/
theorem stops_of_take {s part rest : List Char} (taken : takeAuthority s = some (part, rest)) :
    Stops (fun c => !endsAuthority c) rest := by
  have halves := List.takeWhile_append_dropWhile (p := fun c => !endsAuthority c) (l := s)
  rw [← part_of_take taken] at halves
  have behind := List.append_cancel_left (halves.trans (append_of_take taken))
  intro c first
  have stopped := List.head?_dropWhile_not (fun c => !endsAuthority c) s
  rw [behind, Option.mem_def.mp first] at stopped
  exact stopped

/-! ## Reading a target -/

/-- The ways to read a text as a target. -/
inductive ReadsAs (text : String) : Uri → Prop where
  | asterisk (star : text.toList = ['*']) : ReadsAs text { target := ⟨"*", none⟩ }
  | path {p : PathQuery} (rooted : text.toList.head? = some '/')
      (path : readPathQuery text.toList = some p) : ReadsAs text { target := p }
  | bare (unrooted : text.toList.head? ≠ some '/') (schemeless : takeScheme text.toList = .ok none)
      (taken : takeAuthority text.toList = some (text.toList, []))
      (filled : text.toList.isEmpty = false) : ReadsAs text { authority := text }
  | full {scheme : Scheme} {rest part tail : List Char} {p : PathQuery}
      (unrooted : text.toList.head? ≠ some '/')
      (schemed : takeScheme text.toList = .ok (some (scheme, rest)))
      (taken : takeAuthority rest = some (part, tail)) (filled : part.isEmpty = false)
      (path : readPathQuery tail = some p) : ReadsAs text ⟨some scheme, String.ofList part, p⟩

theorem readsAs_of_parse {text : String} {u : Uri} (read : parse? text = some u) :
    ReadsAs text u ∧ text.utf8ByteSize ≤ maxLength := by
  simp only [parse?] at read
  split at read
  · cases read
  rename_i fits
  refine ⟨?_, Nat.le_of_not_lt fits⟩
  split at read
  · cases read
  · rename_i chars
    cases read
    exact .asterisk chars
  · rename_i rest chars
    obtain ⟨p, path, rfl⟩ := Option.map_eq_some_iff.mp read
    exact .path (by rw [chars]; rfl) path
  · rename_i unrooted
    have unrooted : text.toList.head? ≠ some '/' := by
      intro rooted
      obtain ⟨rest, chars⟩ := List.head?_eq_some_iff.mp rooted
      exact unrooted rest chars
    split at read
    · cases read
    · rename_i schemeless
      split at read
      · rename_i part taken
        split at read
        · cases read
        · rename_i filled
          cases read
          obtain rfl : text.toList = part := (append_of_take taken).trans (List.append_nil part)
          exact .bare unrooted schemeless taken (eq_false_of_ne_true filled)
      · cases read
    · rename_i scheme rest schemed
      split at read
      · rename_i part tail taken
        split at read
        · cases read
        · rename_i filled
          obtain ⟨p, path, rfl⟩ := Option.map_eq_some_iff.mp read
          exact .full unrooted schemed taken (eq_false_of_ne_true filled) path
      · cases read

/-- What a target names as its authority is one. -/
theorem isAuthority_of_parse {text : String} {u : Uri} (read : parse? text = some u)
    (named : u.authority.isEmpty = false) : IsAuthority u.authority.toList := by
  cases (readsAs_of_parse read).1 with
  | asterisk => cases named
  | path => cases named
  | bare _ _ taken filled => exact isAuthority_of_take taken filled
  | full _ _ taken filled _ =>
    rw [String.toList_ofList]
    exact isAuthority_of_take taken filled

/-! ## Characters of an authority -/

private theorem endsWithAt_step {s t : AuthorityScan} {c : Char} (step : s.step c = some t) :
    t.endsWithAt = (c == '@') := by
  by_cases user : c = '@'
  · subst user
    cases step
    rfl
  · rw [beq_false_of_ne user]
    simp only [AuthorityScan.step, beq_false_of_ne user, Bool.false_eq_true, ↓reduceIte] at step
    repeat' split at step
    all_goals cases step
    all_goals rfl

private theorem endsWithAt_scan {s t : AuthorityScan} {row : List Char} (userless : '@' ∉ row)
    (clear : s.endsWithAt = false) (ran : row.foldlM AuthorityScan.step s = some t) :
    t.endsWithAt = false := by
  induction row generalizing s with
  | nil =>
    cases ran
    exact clear
  | cons c rest ih =>
    obtain ⟨other, userless⟩ := List.ne_and_not_mem_of_not_mem_cons userless
    rw [List.foldlM_cons] at ran
    obtain ⟨next, step, ran⟩ := Option.bind_eq_some_iff.mp ran
    refine ih userless ?_ ran
    rw [endsWithAt_step step]
    exact beq_false_of_ne other.symm

/-- The characters that set the parts of an authority apart. -/
def isMark (c : Char) : Bool :=
  c == ':' || c == '@' || c == '[' || c == ']'

/-- A character that changes nothing in a pass over an authority. -/
structure IsPlain (c : Char) : Prop where
  legal : isAuthorityChar c = true
  unmarked : isMark c = false
  unescaped : (c == '%') = false

/-- Plain characters leave no trace. -/
theorem scan_plain {s : AuthorityScan} (clear : s.endsWithAt = false) {row : List Char}
    (plain : ∀ c ∈ row, IsPlain c) : row.foldlM AuthorityScan.step s = some s := by
  induction row with
  | nil => rfl
  | cons c rest ih =>
    obtain ⟨⟨legal, unmarked, unescaped⟩, plain⟩ := List.forall_mem_cons.mp plain
    simp only [isMark, Bool.or_eq_false_iff] at unmarked
    obtain ⟨⟨⟨colon, user⟩, opens⟩, closes⟩ := unmarked
    have same : { s with endsWithAt := false } = s := by rw [← clear]
    have step : s.step c = some s := by
      simp only [AuthorityScan.step, colon, user, opens, closes, unescaped, legal, same,
        Bool.false_eq_true, ↓reduceIte]
    rw [List.foldlM_cons, step]
    exact ih plain

theorem isPlain_digit {c : Char} (digit : c.isDigit = true) : IsPlain c := by
  have apart {d : Char} (other : d.isDigit = false) : (c == d) = false := by
    refine beq_false_of_ne ?_
    rintro rfl
    cases digit.symm.trans other
  refine ⟨?_, ?_, apart rfl⟩
  · simp [isAuthorityChar, Char.isAlphanum, digit]
  · simp [isMark, apart]

/-- A row of plain characters is an authority. -/
theorem isAuthority_plain {row : List Char} (filled : row ≠ []) (plain : ∀ c ∈ row, IsPlain c)
    (whole : ∀ c ∈ row, endsAuthority c = false) : IsAuthority row :=
  ⟨filled, whole, {}, scan_plain rfl plain, rfl⟩

/-- Without its port, an authority is still one. -/
theorem isAuthority_host {host digits : List Char} (filled : host ≠ []) (userless : '@' ∉ host)
    (plain : ∀ c ∈ digits, c.isDigit = true) (authority : IsAuthority (host ++ ':' :: digits)) :
    IsAuthority host := by
  obtain ⟨scan, ran, fine⟩ := authority.scanned
  rw [List.foldlM_append] at ran
  obtain ⟨s, first, ran⟩ := Option.bind_eq_some_iff.mp ran
  rw [List.foldlM_cons] at ran
  obtain ⟨t, colon, ran⟩ := Option.bind_eq_some_iff.mp ran
  rw [scan_plain (endsWithAt_step colon) fun c member => isPlain_digit (plain c member)] at ran
  cases ran
  have clear := endsWithAt_scan userless rfl first
  refine ⟨filled, fun c member => authority.whole c (List.mem_append_left _ member), s, first, ?_⟩
  simp only [AuthorityScan.step, beq_self_eq_true, ↓reduceIte] at colon
  -- The digits leave no trace, and the colon in front of them only counts.
  split at colon
  · cases colon
  · cases colon
    simp only [AuthorityScan.accepts, Bool.and_eq_true, decide_eq_true_eq, clear] at fine ⊢
    obtain ⟨⟨⟨paired, colons⟩, -⟩, unescaped⟩ := fine
    exact ⟨⟨⟨paired, Nat.le_of_succ_le colons⟩, rfl⟩, unescaped⟩

/-! ## Hosts and ports -/

/-- The host of an authority: a name or a version 4 address without such characters, or a text in
brackets, as version 6 addresses are written. -/
inductive IsHost : List Char → Prop where
  | name {s : List Char} (filled : s ≠ []) (plain : ∀ c ∈ s, isMark c = false) : IsHost s
  | bracketed {s : List Char} (plain : ∀ c ∈ s, c ≠ '@' ∧ c ≠ '[' ∧ c ≠ ']') :
    IsHost ('[' :: (s ++ [']']))

private theorem colons_step {s t : AuthorityScan} {c : Char} (other : (c == ':') = false)
    (clear : s.colons = 0) (step : s.step c = some t) : t.colons = 0 := by
  simp only [AuthorityScan.step, other, Bool.false_eq_true, ↓reduceIte] at step
  repeat' split at step
  all_goals cases step
  all_goals first | rfl | exact clear

/-- In a host no colon is counted: a name has none, and the bracket that closes an address takes
those of the address back. -/
theorem colons_of_host {host : List Char} (isHost : IsHost host) {scan : AuthorityScan}
    (ran : host.foldlM AuthorityScan.step {} = some scan) : scan.colons = 0 := by
  cases isHost with
  | name _ plain =>
    have count {row : List Char} (plain : ∀ c ∈ row, isMark c = false) {s t : AuthorityScan}
        (clear : s.colons = 0) (ran : row.foldlM AuthorityScan.step s = some t) : t.colons = 0 := by
      induction row generalizing s with
      | nil =>
        cases ran
        exact clear
      | cons c rest ih =>
        obtain ⟨unmarked, plain⟩ := List.forall_mem_cons.mp plain
        simp only [isMark, Bool.or_eq_false_iff] at unmarked
        obtain ⟨next, step, ran⟩ := Option.bind_eq_some_iff.mp ran
        exact ih plain (colons_step unmarked.1.1.1 clear step) ran
    exact count plain rfl ran
  | @bracketed inner plain =>
    rw [← List.cons_append, List.foldlM_append] at ran
    obtain ⟨s, -, ran⟩ := Option.bind_eq_some_iff.mp ran
    obtain ⟨t, closed, ran⟩ := Option.bind_eq_some_iff.mp ran
    cases ran
    change (if !s.opened || s.closed then none
      else some ({ s with closed := true, colons := 0, percent := false, endsWithAt := false } :
        AuthorityScan)) = some scan at closed
    split at closed
    · cases closed
    · cases closed
      rfl

/-- A host with a port is an authority. -/
theorem isAuthority_port {host digits : List Char} (isHost : IsHost host)
    (plain : ∀ c ∈ digits, c.isDigit = true) (authority : IsAuthority host) :
    IsAuthority (host ++ ':' :: digits) := by
  obtain ⟨s, ran, fine⟩ := authority.scanned
  have colons := colons_of_host isHost ran
  have colon : s.step ':' = some { s with colons := 1, endsWithAt := false } := by
    simp [AuthorityScan.step, colons]
  refine ⟨by simp, ?whole, { s with colons := 1, endsWithAt := false }, ?scanned, ?accepted⟩
  case whole =>
    intro c member
    rcases List.mem_append.mp member with inside | behind
    · exact authority.whole c inside
    · rcases List.mem_cons.mp behind with rfl | digit
      · rfl
      · have unended : ∀ d, endsAuthority d = true → d.isDigit = false := by
          intro d ended
          simp only [endsAuthority, Bool.or_eq_true, beq_iff_eq] at ended
          rcases ended with (rfl | rfl) | rfl <;> rfl
        refine eq_false_of_ne_true fun ended => ?_
        cases (plain c digit).symm.trans (unended c ended)
  case scanned =>
    rw [List.foldlM_append, ran]
    refine Option.bind_eq_some_iff.mpr ⟨s, rfl, ?_⟩
    rw [List.foldlM_cons, colon]
    exact scan_plain rfl fun c member => isPlain_digit (plain c member)
  case accepted =>
    simp only [AuthorityScan.accepts, colons, Bool.and_eq_true] at fine ⊢
    exact ⟨⟨⟨fine.1.1.1, rfl⟩, rfl⟩, fine.2⟩

/-- What names a port behind a host. -/
def portTail : Option (List Char) → List Char
  | some digits => ':' :: digits
  | none => []

/-- An authority that is a host, or a host with the digits of a port. -/
structure Site where
  host : List Char
  port : Option (List Char) := none
  isHost : IsHost host
  isPort : ∀ digits, port = some digits → ∀ c ∈ digits, c.isDigit = true
  isAuthority : IsAuthority (host ++ portTail port)

namespace Site

/-- The site as authorities name it. -/
def authority (s : Site) : String :=
  String.ofList (s.host ++ portTail s.port)

@[simp] theorem toList_authority (s : Site) : s.authority.toList = s.host ++ portTail s.port := by
  rw [authority, String.toList_ofList]

theorem named (s : Site) : IsAuthority s.authority.toList :=
  s.toList_authority ▸ s.isAuthority

theorem authority_filled (s : Site) : s.authority.isEmpty = false := by
  refine Bool.eq_false_iff.mpr fun empty => s.named.filled ?_
  rw [String.isEmpty_iff.mp empty]
  rfl

end Site

theorem host_ne_nil {host : List Char} (isHost : IsHost host) : host ≠ [] := by
  cases isHost with
  | name filled _ => exact filled
  | bracketed _ => exact List.cons_ne_nil _ _

/-- No host holds the mark of a user. -/
theorem host_userless {host : List Char} (isHost : IsHost host) : '@' ∉ host := by
  cases isHost with
  | name _ plain =>
    intro member
    cases plain _ member
  | bracketed plain =>
    intro member
    simp only [List.mem_cons, List.mem_append, List.not_mem_nil, or_false] at member
    rcases member with mark | inside | mark
    · cases mark
    · exact (plain _ inside).1 rfl
    · cases mark

private theorem free_of_digits {c : Char} (other : c.isDigit = false) {digits : List Char}
    (plain : ∀ d ∈ digits, d.isDigit = true) : c ∉ digits := by
  intro member
  cases other.symm.trans (plain c member)

private theorem site_userless (s : Site) : '@' ∉ s.host ++ portTail s.port := by
  rw [List.mem_append, not_or]
  refine ⟨host_userless s.isHost, ?_⟩
  cases named : s.port with
  | none => exact List.not_mem_nil
  | some digits =>
    have row := free_of_digits (c := '@') rfl (s.isPort digits named)
    simpa [portTail] using row

private theorem stops_portTail (port : Option (List Char)) : Stops (· != ':') (portTail port) := by
  cases port with
  | none => nofun
  | some digits => exact stops_cons digits rfl

private theorem colonless_name {host : List Char} (plain : ∀ c ∈ host, isMark c = false) :
    (∀ c ∈ host, (c != ':') = true) ∧ host.head? ≠ some '[' := by
  constructor
  · intro c member
    have unmarked := plain c member
    simp only [isMark, Bool.or_eq_false_iff] at unmarked
    simp [bne, unmarked.1.1.1]
  · intro opened
    cases plain _ (List.mem_of_mem_head? opened)

/-- The host is read back. -/
theorem hostOf_site (s : Site) : hostOf s.authority.toList = s.host := by
  have user := site_userless s
  rw [s.toList_authority, hostOf, hostPort, cutLast_free user]
  rcases s with ⟨host, port, isHost, -⟩
  cases isHost with
  | name filled plain =>
    obtain ⟨colonless, unopened⟩ := colonless_name plain
    dsimp only
    cases host with
    | nil => exact absurd rfl filled
    | cons c rest =>
      split
      · rename_i same
        cases same
        exact absurd rfl unopened
      · exact takeWhile_row colonless (stops_portTail port)
  | @bracketed inner plain =>
    have inside : ∀ c ∈ inner, (c != ']') = true := by
      intro c member
      simpa using (plain c member).2.2
    have closes : Stops (· != ']') (']' :: portTail port) := stops_cons _ rfl
    simp only [List.cons_append, List.append_assoc, List.nil_append, takeWhile_row inside closes]

/-! ## Numbers of ports -/

private theorem word_bracket (width : Nat) {s : List Char} (closed : ']' ∈ s) :
    word? width s = none := by
  refine Option.eq_none_iff_forall_ne_some.mpr fun n read => ?_
  cases (word_iff.mp read).1 with
  | plain _ digits => cases digits _ closed
  | signed _ digits =>
    rcases List.mem_cons.mp closed with sign | inside
    · cases sign
    · cases digits _ inside

/-- A row of digits is the number that it stands for, as long as it fits. -/
theorem word_toDigits (width n : Nat) :
    word? width (Nat.toDigits 10 n) = if n < 1 <<< width then some n else none := by
  have unsigned : (Nat.toDigits 10 n).head? ≠ some '+' := fun signed => by
    cases toDigits_isDigit n _ (List.mem_of_mem_head? signed)
  have filled : (Nat.toDigits 10 n).isEmpty = false :=
    List.isEmpty_eq_false_iff.mpr Nat.toDigits_ne_nil
  simp only [word?, decimal_unsigned unsigned, filled, Bool.false_eq_true, ↓reduceIte,
    numeral_toDigits]

/-- The port is what its digits are worth. -/
theorem portOf_site (s : Site) : portOf s.authority.toList = s.port.bind (word? 16) := by
  rw [s.toList_authority, portOf]
  rcases s with ⟨host, port, isHost, isPort⟩
  cases port with
  | some digits =>
    have free := free_of_digits (c := ':') rfl (isPort digits rfl)
    rw [portTail, cutLast_append host free]
    rfl
  | none =>
    simp only [portTail, List.append_nil, Option.bind_none]
    cases isHost with
    | name filled plain =>
      have free : ':' ∉ host := fun member => by cases plain _ member
      rw [cutLast_free free]
    | @bracketed inner plain =>
      split
      · -- Behind the last colon of a text in brackets is the bracket that closes it.
        rename_i before digits cut
        have last : (':' :: digits).getLast? = some ']' := by
          have shape := congrArg List.getLast? (eq_of_cutLast cut)
          rwa [← List.cons_append, List.getLast?_concat, List.getLast?_append,
            Option.or_of_isSome (by simp [List.getLast?_cons]), eq_comm] at shape
        have closed := List.mem_of_getLast? last
        exact word_bracket 16 (by simpa using closed)
      · rfl

/-- The destination of a tunnel to a site. -/
def Site.destination (s : Site) : Gateway.Destination :=
  .ofAuthority s.authority

@[simp] theorem host_destination (s : Site) : s.destination.host = String.ofList s.host := by
  rw [Site.destination, Gateway.Destination.ofAuthority, hostOf_site]

theorem port_destination (s : Site) :
    s.destination.port = (s.port.bind (word? 16)).getD 443 := by
  rw [Site.destination, Gateway.Destination.ofAuthority, portOf_site]

/-! ## Dropping the default port -/

theorem dropPrefix_append (lead rest : List Char) : dropPrefix? lead (lead ++ rest) = some rest := by
  induction lead with
  | nil => rfl
  | cons c lead ih => simp [dropPrefix?, ih]

theorem eq_of_dropPrefix {lead s rest : List Char} (found : dropPrefix? lead s = some rest) :
    s = lead ++ rest := by
  induction lead generalizing s with
  | nil =>
    rw [dropPrefix?] at found
    exact Option.some.inj found
  | cons c lead ih =>
    cases s with
    | nil => cases found
    | cons d s =>
      rw [dropPrefix?] at found
      split at found
      · rename_i same
        rw [ih found, eq_of_beq same, List.cons_append]
      · cases found

theorem dropSuffix_eq_some {tail s rest : List Char} :
    dropSuffix? tail s = some rest ↔ s = rest ++ tail := by
  rw [dropSuffix?, Option.map_eq_some_iff]
  constructor
  · rintro ⟨back, found, rfl⟩
    have whole := congrArg List.reverse (eq_of_dropPrefix found)
    simpa using whole
  · rintro rfl
    exact ⟨rest.reverse, by rw [List.reverse_append, dropPrefix_append], List.reverse_reverse _⟩

/-- The digits of the port that goes without saying. -/
def defaultDigits (secure : Bool) : List Char :=
  if secure then ['4', '4', '3'] else ['8', '0']

/-- The site without a port that goes without saying. -/
def Site.brief (s : Site) (secure : Bool) : Site where
  host := s.host
  port := s.port.filter (· != defaultDigits secure)
  isHost := s.isHost
  isPort digits named := s.isPort digits (Option.filter_eq_some_iff.mp named).1
  isAuthority := by
    have authority := s.isAuthority
    cases named : s.port with
    | none => simpa [named] using authority
    | some digits =>
      rw [named] at authority
      rw [Option.filter_some]
      split
      · exact authority
      · rw [portTail, List.append_nil]
        exact isAuthority_host (host_ne_nil s.isHost) (host_userless s.isHost)
          (s.isPort digits named) authority

@[simp] theorem port_brief (s : Site) (secure : Bool) :
    (s.brief secure).port = s.port.filter (· != defaultDigits secure) := rfl

theorem defaultPortText_eq (secure : Bool) :
    (Handling.defaultPortText secure).toList = ':' :: defaultDigits secure := by
  cases secure <;> rfl

theorem brief_default {s : Site} {secure : Bool} (named : s.port = some (defaultDigits secure)) :
    (s.brief secure).authority = String.ofList s.host := by
  simp [Site.authority, Site.brief, named, Option.filter, portTail]

theorem brief_other {s : Site} {secure : Bool} (other : s.port ≠ some (defaultDigits secure)) :
    (s.brief secure).authority = s.authority := by
  have kept : s.port.filter (· != defaultDigits secure) = s.port := by
    cases named : s.port with
    | none => rfl
    | some digits =>
      have apart : digits ≠ defaultDigits secure := fun same => other (same ▸ named)
      simpa using apart
  simp only [Site.authority, Site.brief, kept]

theorem brief_eq_iff (s : Site) (secure : Bool) :
    (s.brief secure).authority = s.authority ↔ s.port ≠ some (defaultDigits secure) := by
  constructor
  · intro same named
    have length := congrArg String.length same
    rw [brief_default named, Site.authority, named, portTail] at length
    simp at length
  · exact brief_other

/-- What is dropped of the text is the default port of the site. -/
theorem dropDefaultPort_site (s : Site) (secure : Bool) :
    Handling.dropDefaultPort secure s.authority = (s.brief secure).authority := by
  have colonless : ':' ∉ defaultDigits secure := by cases secure <;> decide
  rw [Handling.dropDefaultPort, defaultPortText_eq]
  by_cases named : s.port = some (defaultDigits secure)
  · have found : dropSuffix? (':' :: defaultDigits secure) s.authority.toList = some s.host := by
      rw [dropSuffix_eq_some, s.toList_authority, named, portTail]
    rw [found, brief_default named]
  · have missed : dropSuffix? (':' :: defaultDigits secure) s.authority.toList = none := by
      refine Option.eq_none_iff_forall_ne_some.mpr fun rest found => named ?_
      rw [dropSuffix_eq_some] at found
      cases written : s.port with
      | some digits =>
        have row := free_of_digits (c := ':') rfl (s.isPort digits written)
        have cut := cutLast_append s.host row
        rw [s.toList_authority, written, portTail] at found
        rw [found, cutLast_append rest colonless] at cut
        cases cut
        rfl
      | none =>
        -- A host that ended like this would have a port.
        have read := portOf_site s
        rw [found, written, portOf, cutLast_append rest colonless] at read
        cases secure <;> cases read
    rw [missed, brief_other named]

end Wirelog.AuthorityLaws
