import Wirelog.Proofs.DigitRows
import Wirelog.Resolution.Book

/-! Hosts that literally are addresses. The text of an address is made of digits, colons and dots,
so there is nothing in it that taking brackets off its ends could take away, and a host stands for
the same address with brackets as without. -/
namespace Wirelog.LiteralHosts
open Text Net Resolution

/-- That a text has no brackets. -/
def Bracketless (s : List Char) : Prop :=
  ∀ c ∈ s, c ≠ '[' ∧ c ≠ ']'

theorem bracketless_append {s t : List Char} (front : Bracketless s) (back : Bracketless t) :
    Bracketless (s ++ t) := by
  intro c member
  rcases List.mem_append.mp member with member | member
  · exact front c member
  · exact back c member

/-- A text has no brackets if its fields have none. -/
theorem bracketless_of_fields (sep : Char) (plain : sep ≠ '[' ∧ sep ≠ ']') {s : List Char}
    (fields : ∀ field ∈ splitOn sep s, Bracketless field) : Bracketless s := by
  induction s with
  | nil => exact List.forall_mem_nil _
  | cons c rest ih =>
    rw [splitOn] at fields
    split at fields
    · rename_i cut
      refine List.forall_mem_cons.mpr ⟨by rwa [eq_of_beq cut], ih fun field member => ?_⟩
      exact fields field (List.mem_cons_of_mem _ member)
    · split at fields
      · rename_i none
        exact absurd none (splitOn_ne_nil sep rest)
      · rename_i first others parts
        obtain ⟨head, tail⟩ := List.forall_mem_cons.mp (fields _ List.mem_cons_self)
        refine List.forall_mem_cons.mpr ⟨head, ih ?_⟩
        rw [parts]
        refine List.forall_mem_cons.mpr ⟨tail, fun field member => ?_⟩
        exact fields field (List.mem_cons_of_mem _ member)

/-- No bracket is a digit. -/
private theorem bracketless_of_numeral {base : Nat} {value : Char → Option Nat}
    (brackets : value '[' = none ∧ value ']' = none) {s : List Char} {n : Nat}
    (read : numeral base value s = some n) : Bracketless s := by
  rw [numeral] at read
  generalize 0 = acc at read
  induction s generalizing acc with
  | nil => exact List.forall_mem_nil _
  | cons c rest ih =>
    obtain ⟨digit, valued, onward⟩ := Option.bind_eq_some_iff.mp read
    refine List.forall_mem_cons.mpr ⟨⟨?_, ?_⟩, ?_⟩
    · rintro rfl
      cases brackets.1.symm.trans valued
    · rintro rfl
      cases brackets.2.symm.trans valued
    · split at onward
      · exact ih _ onward
      · cases onward

private theorem bracketless_octet {s : List Char} {o : UInt8} (read : Ip.octet? s = some o) :
    Bracketless s := by
  unfold Ip.octet? at read
  split at read
  · cases read
  · cases read
  · split at read
    · split at read
      · exact bracketless_of_numeral ⟨rfl, rfl⟩ ‹_›
      · cases read
    · cases read

private theorem each_of_mapM {α β : Type} {f : α → Option β} {l : List α} {results : List β}
    (mapped : l.mapM f = some results) : ∀ a ∈ l, ∃ b, f a = some b := by
  induction l generalizing results with
  | nil => exact List.forall_mem_nil _
  | cons a rest ih =>
    rw [List.mapM_cons] at mapped
    obtain ⟨b, first, mapped⟩ := Option.bind_eq_some_iff.mp mapped
    obtain ⟨others, later, -⟩ := Option.bind_eq_some_iff.mp mapped
    exact List.forall_mem_cons.mpr ⟨⟨b, first⟩, ih later⟩

private theorem bracketless_dotted {s : List Char} {octets : UInt8 × UInt8 × UInt8 × UInt8}
    (read : Ip.octets4? s = some octets) : Bracketless s := by
  rw [Ip.octets4?] at read
  split at read
  · rename_i mapped
    refine bracketless_of_fields '.' (by decide) fun field member => ?_
    obtain ⟨o, read⟩ := each_of_mapM mapped field member
    exact bracketless_octet read
  · cases read

private theorem bracketless_group {s : List Char} {g : UInt16} (read : Ip.group? s = some g) :
    Bracketless s := by
  rw [Ip.group?] at read
  split at read
  · cases read
  · obtain ⟨n, number, -⟩ := Option.map_eq_some_iff.mp read
    exact bracketless_of_numeral ⟨rfl, rfl⟩ number

private theorem bracketless_row {fields : List (List Char)} {groups : List UInt16}
    (read : Ip.groups?.go fields = some groups) : ∀ field ∈ fields, Bracketless field := by
  induction fields using Ip.groups?.go.induct generalizing groups with
  | case1 => exact List.forall_mem_nil _
  | case2 last a b c d dotted => exact List.forall_mem_singleton.mpr (bracketless_dotted dotted)
  | case3 last undotted =>
    simp only [Ip.groups?.go, undotted] at read
    obtain ⟨g, single, -⟩ := Option.map_eq_some_iff.mp read
    exact List.forall_mem_singleton.mpr (bracketless_group single)
  | case4 first rest more ih =>
    rw [Ip.groups?.go] at read
    · obtain ⟨g, single, read⟩ := Option.bind_eq_some_iff.mp read
      obtain ⟨gs, later, -⟩ := Option.bind_eq_some_iff.mp read
      exact List.forall_mem_cons.mpr ⟨bracketless_group single, ih later⟩
    · exact more

private theorem bracketless_groups {s : List Char} {groups : List UInt16}
    (read : Ip.groups? s = some groups) : Bracketless s := by
  rw [Ip.groups?] at read
  split at read
  · rename_i empty
    rw [List.isEmpty_iff.mp empty]
    exact List.forall_mem_nil _
  · exact bracketless_of_fields ':' (by decide) (bracketless_row read)

private theorem cutGap_eq {s front back : List Char} (cut : Ip.cutGap s = some (front, back)) :
    s = front ++ ':' :: ':' :: back := by
  induction s using Ip.cutGap.induct generalizing front with
  | case1 rest =>
    cases cut
    rfl
  | case2 c rest other ih =>
    rw [Ip.cutGap] at cut
    · obtain ⟨⟨start, stop⟩, found, same⟩ := Option.map_eq_some_iff.mp cut
      cases same
      rw [ih found]
      rfl
    · exact other
  | case3 => cases cut

private theorem bracketless_groups6 {s : List Char} {groups : List UInt16}
    (read : Ip.groups6? s = some groups) : Bracketless s := by
  rw [Ip.groups6?] at read
  split at read
  · split at read
    · exact bracketless_groups ‹_›
    · cases read
  · rename_i front back cut
    split at read
    · cases read
    · split at read
      · rw [cutGap_eq cut]
        refine bracketless_append (bracketless_groups ‹_›) ?_
        exact List.forall_mem_cons.mpr ⟨by decide,
          List.forall_mem_cons.mpr ⟨by decide, bracketless_groups ‹_›⟩⟩
      · cases read

/-- The text of an address has no brackets. -/
theorem bracketless_of_parse {text : String} {ip : Ip} (read : Ip.parse? text = some ip) :
    Bracketless text.toList := by
  rw [Ip.parse?] at read
  split at read
  · exact bracketless_dotted ‹_›
  · obtain ⟨groups, row, -⟩ := Option.map_eq_some_iff.mp read
    exact bracketless_groups6 row

private theorem dropWhile_bracket {p : Char → Bool} {s : List Char}
    (outside : ∀ c ∈ s, p c = false) : s.dropWhile p = s :=
  DigitRows.dropWhile_stops fun c first => outside c (List.mem_of_mem_head? first)

/-- An address is a host as it is, and in brackets. -/
theorem literal_of_parse {text : String} {ip : Ip} (read : Ip.parse? text = some ip) :
    literal? text = some ip ∧ literal? ("[" ++ text ++ "]") = some ip := by
  have plain := bracketless_of_parse read
  have opened : text.toList.dropWhile (· == '[') = text.toList :=
    dropWhile_bracket fun c member => beq_false_of_ne (plain c member).1
  have closed : text.toList.reverse.dropWhile (· == ']') = text.toList.reverse :=
    dropWhile_bracket fun c member => beq_false_of_ne (plain c (List.mem_reverse.mp member)).2
  constructor
  · rw [literal?]
    simp only [opened, closed, List.reverse_reverse, String.ofList_toList, read]
  · have inner : ("[" ++ text ++ "]").toList.dropWhile (· == '[') = text.toList ++ [']'] := by
      have whole : ("[" ++ text ++ "]").toList = '[' :: (text.toList ++ [']']) := by simp
      rw [whole, List.dropWhile_cons_of_pos (by decide)]
      refine dropWhile_bracket fun c member => ?_
      rcases List.mem_append.mp member with member | member
      · exact beq_false_of_ne (plain c member).1
      · rw [List.mem_singleton.mp member]
        decide
    rw [literal?]
    simp only [inner, List.reverse_append, List.reverse_singleton, List.singleton_append,
      List.dropWhile_cons_of_pos, beq_self_eq_true, closed, List.reverse_reverse,
      String.ofList_toList, read]

end Wirelog.LiteralHosts
