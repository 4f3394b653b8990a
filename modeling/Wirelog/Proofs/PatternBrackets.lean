import Wirelog.Proofs.PatternTails
/-!
Classes in brackets with more text behind them. A class that the text leaves open is never closed by
what stands behind it: the closing holds no bracket.
-/
namespace Wirelog.Pattern

variable (flags : Flags)

/-! ### Named classes -/

/-- The class of a name up to a colon. -/
private def namedAscii (negated : Bool) (s : List Char) : Option (CharClass × List Char) :=
  match s.drop (s.takeWhile (· != ':')).length with
  | ':' :: ']' :: rest =>
    (asciiClass? (String.ofList (s.takeWhile (· != ':')))).map fun cls =>
      (closeClass flags negated cls, rest)
  | _ => none

private theorem namedAscii_beside {spill : CharClass → List Char → Prop} (negated : Bool)
    (s : List Char) :
    Beside spill s.length (namedAscii flags negated s)
      (namedAscii flags negated (s ++ closing)) := by
  rw [namedAscii, namedAscii]
  rcases name_behind (p := (· != ':')) rfl s with ⟨spent, also⟩ | ⟨same, behind⟩
  · rw [spent, also]
    exact .neither
  · rw [same, behind]
    have short := (s.drop_suffix (s.takeWhile (· != ':')).length).length_le
    revert short
    generalize s.drop (s.takeWhile (· != ':')).length = w
    intro short
    split
    case h_1 rest =>
      simp only [List.cons_append]
      simp only [List.length_cons] at short
      cases asciiClass? (String.ofList (s.takeWhile (· != ':'))) with
      | none => exact .neither
      | some cls => exact .both (by omega)
    case h_2 other =>
      split
      case h_1 rest same =>
        match w with
        | [] => cases same
        | [c] => cases same
        | c :: d :: w =>
          cases same
          exact (other w rfl).elim
      case h_2 => exact .neither

private theorem takeAsciiClass_plain {s : List Char} (plain : ∀ rest, s ≠ '^' :: rest) :
    takeAsciiClass flags ('[' :: ':' :: s) = namedAscii flags false s := by
  rw [takeAsciiClass]
  · rfl
  · exact plain

theorem takeAsciiClass_beside {spill : CharClass → List Char → Prop} (s : List Char) :
    Beside spill s.length (takeAsciiClass flags ('[' :: s))
      (takeAsciiClass flags ('[' :: (s ++ closing))) := by
  match s with
  | [] => exact .neither
  | c :: rest =>
    by_cases colon : c = ':'
    · subst colon
      rw [List.cons_append]
      by_cases caret : ∃ more, rest = '^' :: more
      · obtain ⟨more, rfl⟩ := caret
        exact (namedAscii_beside flags true more).longer (by simp only [List.length_cons]; omega)
      · have plain : ∀ more, rest ≠ '^' :: more := fun more same => caret ⟨more, same⟩
        have behind : ∀ more, rest ++ closing ≠ '^' :: more := by
          intro more same
          match rest with
          | [] => cases same
          | d :: rest =>
            cases same
            exact plain rest rfl
        rw [takeAsciiClass_plain flags plain, takeAsciiClass_plain flags behind]
        exact (namedAscii_beside flags false rest).longer (Nat.le_succ _)
    · have nothing : ∀ more, takeAsciiClass flags ('[' :: c :: more) = none := by
        intro more
        rw [takeAsciiClass]
        intro _ same
        exact colon (List.cons.inj (List.cons.inj same).2).1
      rw [List.cons_append, nothing, nothing]
      exact .neither

/-! ### The opening of a class -/

/-- The negation of a class. -/
private def takeCaret (s : List Char) : Option (Bool × List Char) := do
  let s ← takeClassStart.filled (skipSpace flags.verbose s)
  match s with
  | '^' :: rest => (takeClassStart.filled (skipSpace flags.verbose rest)).map fun s => (true, s)
  | _ => some (false, s)

/-- A closing bracket that stands for itself, when no dashes were read before it. -/
private def takeBracket (dashes : List (CharClass × Nat)) (s : List Char) :
    Option (List (CharClass × Nat) × List Char) :=
  match dashes, s with
  | [], ']' :: rest =>
    (takeClassStart.filled (skipSpace flags.verbose rest)).map fun s => ([(.single ']', 0)], s)
  | _, _ => some (dashes, s)

private theorem takeBracket_tagged (negated : Bool) (dashes : List (CharClass × Nat))
    (s : List Char) :
    (match dashes, s with
      | [], ']' :: rest =>
        (takeClassStart.filled (skipSpace flags.verbose rest)).bind fun s =>
          some (negated, [(.single ']', 0)], s)
      | _, _ => some (negated, dashes, s)) =
    (takeBracket flags dashes s).bind fun e => some (negated, e.1, e.2) := by
  match dashes, s with
  | _ :: _, _ => rfl
  | [], [] => rfl
  | [], c :: rest =>
    by_cases bracket : c = ']'
    · subst bracket
      simp only [takeBracket]
      cases takeClassStart.filled (skipSpace flags.verbose rest) <;> rfl
    · rw [takeBracket]
      · simp [bracket]
      · intro _ _ same
        exact bracket (List.cons.inj same).1

private theorem takeClassStart_eq (s : List Char) :
    takeClassStart flags s =
      (takeCaret flags s).bind fun r =>
        (takeClassStart.leadingDashes flags r.2 (r.2.length + 1) []).bind fun d =>
          (takeBracket flags d.1 d.2).bind fun e => some (r.1, e.1, e.2) := by
  rw [takeClassStart, takeCaret]
  cases takeClassStart.filled (skipSpace flags.verbose s) with
  | none => rfl
  | some s =>
    simp only [Option.bind_eq_bind, Option.bind_some]
    have tagged (r : Bool × List Char) := congrArg
      (takeClassStart.leadingDashes flags r.2 (r.2.length + 1) []).bind
      (funext fun d => takeBracket_tagged flags r.1 d.1 d.2)
    cases s with
    | nil => exact tagged (false, [])
    | cons c rest =>
      by_cases caret : c = '^'
      · subst caret
        exact congrArg
          ((takeClassStart.filled (skipSpace flags.verbose rest)).map fun s => (true, s)).bind
          (funext tagged)
      · simp only [List.cons.injEq, caret, false_and, imp_self, implies_true]
        exact tagged (false, c :: rest)

private theorem filled_behind (s : List Char) :
    (∃ w, w.length ≤ s.length ∧ takeClassStart.filled (skipSpace flags.verbose s) = some w ∧
      takeClassStart.filled (skipSpace flags.verbose (s ++ closing)) = some (w ++ closing)) ∨
    (takeClassStart.filled (skipSpace flags.verbose s) = none ∧
      (takeClassStart.filled (skipSpace flags.verbose (s ++ closing)) = none ∨
        takeClassStart.filled (skipSpace flags.verbose (s ++ closing)) = some closing)) := by
  rcases skipSpace_behind flags.verbose s with ⟨w, short, same, behind⟩ | ⟨spent, hidden⟩
  · rw [same, behind]
    cases w with
    | nil => exact .inr ⟨rfl, .inr rfl⟩
    | cons c w => exact .inl ⟨c :: w, short, rfl, rfl⟩
  · rw [spent, hidden]
    exact .inr ⟨rfl, .inl rfl⟩

private theorem takeCaret_beside (s : List Char) :
    Beside Within s.length (takeCaret flags s) (takeCaret flags (s ++ closing)) := by
  rw [takeCaret, takeCaret]
  rcases filled_behind flags s with ⟨w, short, same, behind⟩ | ⟨spent, hidden | behind⟩
  · rw [same, behind]
    simp only [Option.bind_eq_bind, Option.bind_some]
    match w with
    | [] => exact .both (Nat.zero_le _)
    | c :: rest =>
      rw [List.length_cons] at short
      by_cases caret : c = '^'
      · subst caret
        simp only [List.cons_append]
        rcases filled_behind flags rest with ⟨w, shorter, same, behind⟩ | ⟨spent, hidden | behind⟩
        · rw [same, behind]
          exact .both (by omega)
        · rw [spent, hidden]
          exact .neither
        · rw [spent, behind]
          exact .only (.inl rfl)
      · simp only [List.cons_append, List.cons.injEq, caret, false_and, imp_self, implies_true]
        exact .both short
  · rw [spent, hidden]
    exact .neither
  · rw [spent, behind]
    exact .only (.inl rfl)

private theorem leadingDashes_none {s : List Char} (none : ∀ rest, s ≠ '-' :: rest) (n : Nat)
    (acc : List (CharClass × Nat)) :
    takeClassStart.leadingDashes flags s n acc = some (acc, s) := by
  cases n with
  | zero => rfl
  | succ n =>
    rw [takeClassStart.leadingDashes]
    exact none

private theorem leadingDashes_beside (s : List Char) (n m : Nat) (acc : List (CharClass × Nat))
    (enough : s.length < n) (more : s.length < m) :
    Beside Within s.length (takeClassStart.leadingDashes flags s n acc)
      (takeClassStart.leadingDashes flags (s ++ closing) m acc) := by
  induction n generalizing s m acc with
  | zero => omega
  | succ n ih =>
    obtain ⟨m, rfl⟩ : ∃ k, m = k + 1 := ⟨m - 1, by omega⟩
    match s with
    | [] => exact .both (Nat.le_refl _)
    | c :: rest =>
      rw [List.length_cons] at enough more
      by_cases dash : c = '-'
      · subst dash
        rw [List.cons_append, takeClassStart.leadingDashes, takeClassStart.leadingDashes]
        rcases filled_behind flags rest with ⟨w, short, same, behind⟩ | ⟨spent, hidden | behind⟩
        · rw [same, behind]
          exact (ih w m _ (by omega) (by omega)).longer (Nat.le_succ_of_le short)
        · rw [spent, hidden]
          exact .neither
        · rw [spent, behind]
          have solid : ∀ more, closing ≠ '-' :: more := by
            intro more same
            cases same
          simp only [Option.bind_eq_bind, Option.bind_some, leadingDashes_none flags solid]
          exact .only (.inl rfl)
      · have plain : ∀ rest more, c :: rest ≠ '-' :: more :=
          fun _ _ same => dash (List.cons.inj same).1
        rw [List.cons_append, leadingDashes_none flags (plain _),
          leadingDashes_none flags (plain _)]
        exact .both (Nat.le_refl _)

private theorem takeBracket_none {s : List Char} (none : ∀ rest, s ≠ ']' :: rest)
    (dashes : List (CharClass × Nat)) : takeBracket flags dashes s = some (dashes, s) := by
  rw [takeBracket]
  exact fun rest _ same => none rest same

private theorem takeBracket_beside (dashes : List (CharClass × Nat)) (s : List Char) :
    Beside Within s.length (takeBracket flags dashes s)
      (takeBracket flags dashes (s ++ closing)) := by
  match dashes, s with
  | dash :: dashes, s => exact .both (Nat.le_refl _)
  | [], [] => exact .both (Nat.le_refl _)
  | [], c :: rest =>
    by_cases bracket : c = ']'
    · subst bracket
      rw [List.cons_append, takeBracket, takeBracket]
      rcases filled_behind flags rest with ⟨w, short, same, behind⟩ | ⟨spent, hidden | behind⟩
      · rw [same, behind]
        exact .both (Nat.le_succ_of_le short)
      · rw [spent, hidden]
        exact .neither
      · rw [spent, behind]
        exact .only (.inl rfl)
    · have plain : ∀ rest more, c :: rest ≠ ']' :: more :=
        fun _ _ same => bracket (List.cons.inj same).1
      rw [List.cons_append, takeBracket_none flags (plain _), takeBracket_none flags (plain _)]
      exact .both (Nat.le_refl _)

private theorem takeClassStart_beside (s : List Char) :
    Beside Within s.length ((takeClassStart flags s).map fun r => ((r.1, r.2.1), r.2.2))
      ((takeClassStart flags (s ++ closing)).map fun r => ((r.1, r.2.1), r.2.2)) := by
  rw [takeClassStart_eq, takeClassStart_eq]
  simp only [Option.map_bind, Function.comp_def]
  refine (takeCaret_beside flags s).bind (fun negated rest short => ?_) (fun _ => .hidden)
    fun negated rest within => ?_
  · have dashes := leadingDashes_beside flags rest (rest.length + 1)
      ((rest ++ closing).length + 1) [] (by omega) (length_lt_behind _)
    refine dashes.bind (fun dashes rest shorter => ?_) (fun dashes => ?_)
      fun dashes rest within => ?_
    · have bracket : Beside Within _ _ _ := (takeBracket_beside flags dashes rest).filterMap
        (f := fun items => some (negated, items)) fun _ _ _ within _ => within
      exact bracket.longer (by omega)
    · cases dashes <;> exact .hidden
    · rw [takeBracket_none flags (within.ne_cons (by decide))]
      exact .only within
  · rw [leadingDashes_none flags (within.ne_cons (by decide)), Option.bind_some,
      takeBracket_none flags (within.ne_cons (by decide))]
    exact .only within

/-- A reader that goes on from the opening of a class. -/
private theorem takeClassStart_bind {β : Type} {spill : β → List Char → Prop} {n : Nat}
    (s : List Char)
    {f g : Bool × List (CharClass × Nat) × List Char → Option (β × List Char)}
    (goes : ∀ x items rest, rest.length ≤ s.length →
      Beside spill n (f (x, items, rest)) (g (x, items, rest ++ closing)))
    (ended : ∀ x items, Beside spill n (f (x, items, [])) (g (x, items, [])))
    (gone : ∀ x items rest, Within () rest → Beside spill n none (g (x, items, rest))) :
    Beside spill n ((takeClassStart flags s).bind f)
      ((takeClassStart flags (s ++ closing)).bind g) := by
  have beside := (takeClassStart_beside flags s).bind (f := fun r => f (r.1.1, r.1.2, r.2))
    (g := fun r => g (r.1.1, r.1.2, r.2)) (fun _ _ short => goes _ _ _ short) (fun _ => ended _ _)
    fun _ _ within => gone _ _ _ within
  rw [Option.bind_map, Option.bind_map] at beside
  exact beside

/-! ### The items of a class -/

theorem takeClassAtom_beside (s : List Char) :
    Beside (Escaped flags) (s.length - 1) (takeClassAtom flags s)
      (takeClassAtom flags (s ++ closing)) := by
  match s with
  | [] => exact .only (.inl (.inr rfl))
  | c :: rest =>
    by_cases escape : c = '\\'
    · subst escape
      exact takeEscape_beside flags rest
    · have plain : ∀ more, takeClassAtom flags (c :: more) = some (.literal c, more) := by
        intro more
        rw [takeClassAtom]
        exact escape
      rw [List.cons_append, plain, plain]
      exact .both (Nat.le_refl _)

/-- What a single atom stands for in a class. -/
private def alone (x : Atom) : Option CharClass :=
  match x with
  | .literal c => classLiteral flags c
  | .cls c => some c
  | .look _ => none

/-- The range between two atoms. -/
private def rangeOf (first second : Atom) : Option CharClass :=
  match first, second with
  | .literal a, .literal b =>
    if a.toNat ≤ b.toNat && (flags.unicode || b.toNat < 128) then some (.range a.toNat b.toNat)
    else none
  | _, _ => none

/-- What follows an atom in a class: the end of a range, or nothing that belongs to it. -/
private def takeRange (first : Atom) (s : List Char) : Option (CharClass × List Char) :=
  match skipSpace flags.verbose s with
  | [] => none
  | '-' :: rest =>
    match skipSpace flags.verbose rest with
    | ']' :: _ | '-' :: _ => (alone flags first).map fun cls => (cls, skipSpace flags.verbose s)
    | [] => none
    | rest =>
      (takeClassAtom flags rest).bind fun second =>
        (rangeOf flags first second.1).map fun cls => (cls, second.2)
  | rest => (alone flags first).map fun cls => (cls, rest)

private theorem alone_tagged (x : Atom) (rest : List Char) :
    ((match x with
      | .literal c => classLiteral flags c
      | .cls c => some c
      | .look _ => none).bind fun cls => some (cls, rest)) =
    (alone flags x).map fun cls => (cls, rest) := by
  rw [Option.map_eq_bind]
  rfl

private theorem rangeOf_tagged (first second : Atom) (rest : List Char) :
    (match first, second with
      | .literal a, .literal b =>
        if a.toNat ≤ b.toNat && (flags.unicode || b.toNat < 128) then
          some (CharClass.range a.toNat b.toNat, rest)
        else none
      | _, _ => none) =
    (rangeOf flags first second).map fun cls => (cls, rest) := by
  match first, second with
  | .literal a, .literal b =>
    simp only [rangeOf]
    split <;> rfl
  | .literal _, .cls _ | .literal _, .look _ | .cls _, _ | .look _, _ => rfl

private theorem takeClassItem_eq (s : List Char) :
    takeClassItem flags s =
      (takeClassAtom flags s).bind fun first => takeRange flags first.1 first.2 := by
  rw [takeClassItem]
  refine congrArg _ (funext fun first => ?_)
  obtain ⟨first, s⟩ := first
  rw [takeRange]
  dsimp only
  generalize skipSpace flags.verbose s = w
  match w with
  | [] => rfl
  | c :: rest =>
    by_cases dash : c = '-'
    · subst dash
      simp only
      generalize skipSpace flags.verbose rest = v
      match v with
      | [] => rfl
      | d :: more =>
        by_cases last : d = ']'
        · subst last
          exact alone_tagged flags first _
        by_cases again : d = '-'
        · subst again
          exact alone_tagged flags first _
        simp only [List.cons.injEq, last, again, false_and, imp_self, implies_true]
        exact congrArg _ (funext fun second => rangeOf_tagged flags first second.1 second.2)
    · simp only [List.cons.injEq, dash, false_and, imp_self, implies_true]
      exact alone_tagged flags first _

private theorem takeRange_nil (x : Atom) : takeRange flags x [] = none := by
  rw [takeRange, skipSpace_nil]

/-- An atom that got over the end of the text may make an item of a class, but no range. -/
private theorem takeRange_gone {x : Atom} {rest : List Char} (escaped : Escaped flags x rest) :
    Beside Within 0 none (takeRange flags x rest) := by
  rcases escaped with (rfl | rfl) | ⟨⟨w, rfl, _⟩, l, rfl⟩
  · rw [takeRange_nil]
    exact .neither
  · rw [takeRange, skipSpace_dollar]
    show Beside Within 0 none ((alone flags x).map fun cls => (cls, ['$']))
    cases alone flags x with
    | none => exact .neither
    | some cls => exact .only (.inr (.inr rfl))
  · have solid : skipSpace flags.verbose ('\x7b' :: w) = '\x7b' :: w :=
      skipSpace_solid _ _ (by decide) (by decide)
    rw [takeRange, solid]
    exact .neither

private theorem rangeOf_gone {x y : Atom} {rest : List Char} {cls : CharClass}
    (escaped : Escaped flags y rest) (made : rangeOf flags x y = some cls) : Within cls rest := by
  rcases escaped with past | ⟨_, l, rfl⟩
  · exact .inr past
  · cases x <;> cases made

private theorem alone_both {spill : CharClass → List Char → Prop} {n : Nat} (x : Atom)
    {rest : List Char} (short : rest.length ≤ n) :
    Beside spill n ((alone flags x).map fun cls => (cls, rest))
      ((alone flags x).map fun cls => (cls, rest ++ closing)) := by
  cases alone flags x with
  | none => exact .neither
  | some cls => exact .both short

private theorem takeRange_beside (x : Atom) (s : List Char) :
    Beside Within s.length (takeRange flags x s) (takeRange flags x (s ++ closing)) := by
  rw [takeRange, takeRange]
  rcases skipSpace_behind flags.verbose s with ⟨w, short, same, behind⟩ | ⟨spent, hidden⟩
  · rw [same, behind]
    match w with
    | [] =>
      show Beside Within s.length none ((alone flags x).map fun cls => (cls, closing))
      cases alone flags x with
      | none => exact .neither
      | some cls => exact .only (.inl rfl)
    | c :: rest =>
      rw [List.length_cons] at short
      by_cases dash : c = '-'
      · subst dash
        simp only [List.cons_append]
        rcases skipSpace_behind flags.verbose rest with
          ⟨v, shorter, same, behind⟩ | ⟨spent, hidden⟩
        · rw [same, behind]
          match v with
          | [] =>
            show Beside Within s.length none
              ((rangeOf flags x (.literal ')')).map fun cls => (cls, ['$']))
            cases rangeOf flags x (.literal ')') with
            | none => exact .neither
            | some cls => exact .only (.inr (.inr rfl))
          | d :: more =>
            rw [List.length_cons] at shorter
            by_cases last : d = ']'
            · subst last
              exact alone_both flags x (by rw [List.length_cons]; omega)
            by_cases again : d = '-'
            · subst again
              exact alone_both flags x (by rw [List.length_cons]; omega)
            simp only [List.cons_append, List.cons.injEq, last, again, false_and, imp_self,
              implies_true]
            have atom := takeClassAtom_beside flags (d :: more)
            refine (atom.filterMap fun second rest cls escaped made => ?_).longer ?_
            · exact rangeOf_gone flags escaped made
            · simp only [List.length_cons, Nat.add_sub_cancel]
              omega
        · rw [spent, hidden]
          exact .neither
      · simp only [List.cons_append, List.cons.injEq, dash, false_and, imp_self, implies_true]
        exact alone_both flags x short
  · rw [spent, hidden]
    exact .neither

private theorem takeClassItem_beside (s : List Char) :
    Beside Within (s.length - 1) (takeClassItem flags s) (takeClassItem flags (s ++ closing)) := by
  rw [takeClassItem_eq, takeClassItem_eq]
  refine (takeClassAtom_beside flags s).bind (fun x rest short => ?_) (fun x => ?_)
    fun x rest escaped => ?_
  · exact (takeRange_beside flags x rest).longer short
  · rw [takeRange_nil]
    exact .neither
  · exact (takeRange_gone flags escaped).longer (Nat.zero_le _)

/-! ### The body of a class -/

/-- Texts that start with an item of a class, and not with a sign that belongs to no item. -/
private structure Plain (w : List Char) : Prop where
  held : w ≠ []
  single : ∀ c ∈ ['[', ']'], ∀ rest, w ≠ c :: rest
  double : ∀ c ∈ ['&', '-', '~'], ∀ rest, w ≠ c :: c :: rest

private theorem Plain.behind {w : List Char} (plain : Plain w) : Plain (w ++ closing) := by
  match w, plain.held with
  | c :: w, _ =>
    refine ⟨nofun, fun d sign rest same => ?_, fun d sign rest same => ?_⟩
    · obtain ⟨rfl, _⟩ := List.cons.inj same
      exact plain.single c sign w rfl
    · obtain ⟨rfl, same⟩ := List.cons.inj same
      match w with
      | [] =>
        obtain ⟨rfl, _⟩ := List.cons.inj same
        simp at sign
      | d :: w =>
        obtain ⟨rfl, _⟩ := List.cons.inj same
        exact plain.double d sign w rfl

private theorem plain_closing : Plain closing := by
  refine ⟨nofun, fun c sign rest same => ?_, fun c sign rest same => ?_⟩
  all_goals
    obtain ⟨rfl, _⟩ := List.cons.inj same
    simp at sign

/-- What the body of a class starts with. -/
private inductive Start : List Char → Prop where
  | spent : Start []
  | opens (rest : List Char) : Start ('[' :: rest)
  | ends (rest : List Char) : Start (']' :: rest)
  | inter (rest : List Char) : Start ('&' :: '&' :: rest)
  | diff (rest : List Char) : Start ('-' :: '-' :: rest)
  | symmDiff (rest : List Char) : Start ('~' :: '~' :: rest)
  | item {w : List Char} (plain : Plain w) : Start w

private theorem start (w : List Char) : Start w := by
  by_cases held : w = []
  · subst held
    exact .spent
  by_cases opens : ∃ rest, w = '[' :: rest
  · obtain ⟨rest, rfl⟩ := opens
    exact .opens rest
  by_cases ends : ∃ rest, w = ']' :: rest
  · obtain ⟨rest, rfl⟩ := ends
    exact .ends rest
  by_cases inter : ∃ rest, w = '&' :: '&' :: rest
  · obtain ⟨rest, rfl⟩ := inter
    exact .inter rest
  by_cases diff : ∃ rest, w = '-' :: '-' :: rest
  · obtain ⟨rest, rfl⟩ := diff
    exact .diff rest
  by_cases symmDiff : ∃ rest, w = '~' :: '~' :: rest
  · obtain ⟨rest, rfl⟩ := symmDiff
    exact .symmDiff rest
  refine .item ⟨held, ?_, ?_⟩
  · simp only [List.mem_cons, List.not_mem_nil, or_false, forall_eq_or_imp, forall_eq]
    exact ⟨fun rest same => opens ⟨rest, same⟩, fun rest same => ends ⟨rest, same⟩⟩
  · simp only [List.mem_cons, List.not_mem_nil, or_false, forall_eq_or_imp, forall_eq]
    exact ⟨fun rest same => inter ⟨rest, same⟩, fun rest same => diff ⟨rest, same⟩,
      fun rest same => symmDiff ⟨rest, same⟩⟩

private theorem takeClassBody_item {stack : List OpenClass} {items : List (CharClass × Nat)}
    {s w : List Char} (n : Nat) (skipped : skipSpace flags.verbose s = w) (plain : Plain w) :
    takeClassBody flags stack items s (n + 1) =
      (takeClassItem flags w).bind fun r =>
        takeClassBody flags stack ((r.1, 0) :: items) r.2 n := by
  rw [takeClassBody, skipped]
  split
  case h_1 => exact (plain.held rfl).elim
  case h_2 rest => exact (plain.single '[' (by decide) rest rfl).elim
  case h_3 rest => exact (plain.single ']' (by decide) rest rfl).elim
  case h_4 rest => exact (plain.double '&' (by decide) rest rfl).elim
  case h_5 rest => exact (plain.double '-' (by decide) rest rfl).elim
  case h_6 rest => exact (plain.double '~' (by decide) rest rfl).elim
  case h_7 =>
    cases takeClassItem flags w <;> rfl

private theorem takeClassBody_nil (stack : List OpenClass) (items : List (CharClass × Nat))
    (n : Nat) : takeClassBody flags stack items [] n = none := by
  cases n with
  | zero => rfl
  | succ n => rw [takeClassBody, skipSpace_nil]

/-- A part of the closing does not close a class. -/
private theorem takeClassBody_within {rest : List Char} (within : Within () rest)
    (stack : List OpenClass) (items : List (CharClass × Nat)) (n : Nat) :
    takeClassBody flags stack items rest n = none := by
  induction n generalizing rest items with
  | zero => rfl
  | succ n ih =>
    rcases within with rfl | rfl | rfl
    · rw [takeClassBody_item flags n (skipSpace_closing flags.verbose) plain_closing]
      have item : Beside Within 0 none (takeClassItem flags closing) :=
        takeClassItem_beside flags []
      generalize takeClassItem flags closing = read at item
      cases item with
      | neither => rfl
      | only within => exact ih within _
    · exact takeClassBody_nil flags stack items _
    · have item : takeClassItem flags ['$'] = none := by
        rw [takeClassItem_eq]
        exact takeRange_nil flags _
      rw [takeClassBody, skipSpace_dollar]
      simp [item]

/-- What an opening bracket starts inside a class. -/
private def nested (stack : List OpenClass) (items : List (CharClass × Nat)) (rest : List Char)
    (n : Nat) : Option ((CharClass × Nat) × List Char) :=
  match takeAsciiClass flags ('[' :: rest) with
  | some (cls, rest) => takeClassBody flags stack ((cls, 0) :: items) rest n
  | none =>
    (takeClassStart flags rest).bind fun r =>
      takeClassBody flags (.bracket r.1 items :: stack) r.2.1 r.2.2 n

private theorem takeClassBody_nested {stack : List OpenClass} {items : List (CharClass × Nat)}
    {s rest : List Char} (n : Nat) (skipped : skipSpace flags.verbose s = '[' :: rest) :
    takeClassBody flags stack items s (n + 1) = nested flags stack items rest n := by
  rw [takeClassBody, skipped, nested]
  simp only
  cases takeAsciiClass flags ('[' :: rest) with
  | some named => rfl
  | none => cases takeClassStart flags rest <;> rfl

private theorem nested_beside {k n m : Nat} (stack : List OpenClass)
    (items : List (CharClass × Nat)) (rest : List Char)
    (go : ∀ stack items left, left.length ≤ rest.length →
      Beside Never k (takeClassBody flags stack items left n)
        (takeClassBody flags stack items (left ++ closing) m)) :
    Beside Never k (nested flags stack items rest n)
      (nested flags stack items (rest ++ closing) m) := by
  have named : Beside Never _ _ _ := takeAsciiClass_beside flags rest
  rw [nested, nested]
  generalize takeAsciiClass flags ('[' :: rest) = a at named
  generalize takeAsciiClass flags ('[' :: (rest ++ closing)) = b at named
  cases named with
  | both shorter => exact go _ _ _ shorter
  | hidden =>
    simp only [takeClassBody_nil]
    exact .neither
  | only h => exact h.elim
  | neither =>
    refine takeClassStart_bind flags rest (fun x leading left shorter => ?_)
      (fun x leading => ?_) fun x leading left within => ?_
    · exact go _ _ left shorter
    · simp only [takeClassBody_nil]
      exact .neither
    · simp only [takeClassBody_within flags within]
      exact .neither

private theorem takeClassBody_beside (stack : List OpenClass) (items : List (CharClass × Nat))
    (s : List Char) (n m : Nat) (enough : s.length < n) (more : s.length < m) :
    Beside Never s.length (takeClassBody flags stack items s n)
      (takeClassBody flags stack items (s ++ closing) m) := by
  induction n generalizing stack items s m with
  | zero => omega
  | succ n ih =>
    obtain ⟨m, rfl⟩ : ∃ k, m = k + 1 := ⟨m - 1, by omega⟩
    -- Every way to go on reads less than there was.
    have go : ∀ stack items rest, rest.length < s.length →
        Beside Never s.length (takeClassBody flags stack items rest n)
          (takeClassBody flags stack items (rest ++ closing) m) := fun stack items rest less =>
      (ih stack items rest m (by omega) (by omega)).longer (Nat.le_of_lt less)
    rcases skipSpace_behind flags.verbose s with ⟨w, short, same, behind⟩ | ⟨spent, hidden⟩
    · cases start w with
      | spent =>
        have solid : takeClassBody flags stack items (s ++ closing) (m + 1) =
            takeClassBody flags stack items closing (m + 1) := by
          rw [takeClassBody, takeClassBody, behind, skipSpace_closing]
          rfl
        rw [takeClassBody, same, solid, takeClassBody_within flags (.inl rfl)]
        exact .neither
      | opens rest =>
        rw [List.length_cons] at short
        rw [takeClassBody_nested flags n same, takeClassBody_nested flags m behind]
        exact nested_beside flags stack items rest fun stack items left shorter =>
          go stack items left (by omega)
      | ends rest =>
        rw [List.length_cons] at short
        rw [takeClassBody, takeClassBody, same, behind]
        simp only [List.cons_append]
        generalize finishOp flags (unionItems items.reverse) stack = finished
        match finished with
        | (_, []) | (_, .op _ _ _ :: _) => exact .neither
        | (cls, .bracket negated outer :: stack) =>
          simp only
          split
          · exact .both (by omega)
          · exact go _ _ rest (by omega)
      | inter rest | diff rest | symmDiff rest =>
        rw [takeClassBody, takeClassBody, same, behind]
        exact go _ _ rest (by simp only [List.length_cons] at short; omega)
      | item plain =>
        rw [takeClassBody_item flags n same plain, takeClassBody_item flags m behind plain.behind]
        have positive := List.length_pos_iff.mpr plain.held
        refine (takeClassItem_beside flags w).bind (fun cls rest less => ?_) (fun cls => ?_)
          fun cls rest within => ?_
        · exact go stack _ rest (by omega)
        · rw [takeClassBody_nil, takeClassBody_nil]
          exact .neither
        · rw [takeClassBody_within flags within]
          exact .neither
    · rw [takeClassBody, takeClassBody, spent, hidden]
      exact .neither

theorem takeClass_beside (s : List Char) :
    Beside Never s.length (takeClass flags s) (takeClass flags (s ++ closing)) := by
  rw [takeClass, takeClass]
  refine takeClassStart_bind flags s (fun negated items rest short => ?_) (fun negated items => ?_)
    fun negated items rest within => ?_
  · have body := takeClassBody_beside flags [.bracket negated []] items rest (s.length + 1)
      ((s ++ closing).length + 1) (by omega) (by rw [List.length_append]; omega)
    refine body.bind (fun cls rest shorter => ?_) (fun cls => ?_) fun _ _ h => h.elim
    · dsimp only
      split
      · exact .both (by omega)
      · exact .neither
    · dsimp only
      split
      · exact .hidden
      · exact .neither
  · simp only [takeClassBody_nil]
    exact .neither
  · simp only [takeClassBody_within flags within]
    exact .neither

end Wirelog.Pattern
