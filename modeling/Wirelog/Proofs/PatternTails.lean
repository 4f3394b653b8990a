import Wirelog.Pattern.Parser
/-!
Reading a pattern with more text behind it. The text that closes an anchored pattern is not told
apart from the pattern while this is read: a comment may run over it, and a construct that the
pattern leaves open may go on into it. `Beside` holds the reading of a text on its own and the
reading of the same text with the closing behind it together, and there is one law for each reader.
-/
namespace Wirelog.Pattern

/-- What stands behind a pattern that is held to both ends. -/
def closing : List Char := [')', '$']

theorem length_lt_behind (s : List Char) : s.length < (s ++ closing).length + 1 := by
  rw [List.length_append]
  omega

/-- A reading of a text on its own beside the reading of the text with the closing behind it. When
the first fails, the second may get over the end of the text. -/
inductive Beside {α : Type} (spill : α → List Char → Prop) (n : Nat) :
    Option (α × List Char) → Option (α × List Char) → Prop where
  /-- Both read the same, and the closing is still there. -/
  | both {x : α} {rest : List Char} (short : rest.length ≤ n) :
    Beside spill n (some (x, rest)) (some (x, rest ++ closing))
  /-- Both read the same, but a comment has run over the closing. -/
  | hidden {x : α} : Beside spill n (some (x, [])) (some (x, []))
  /-- Neither reads anything. -/
  | neither : Beside spill n none none
  /-- The text is broken, but goes on in the closing. -/
  | only {x : α} {rest : List Char} (gone : spill x rest) : Beside spill n none (some (x, rest))

/-- No reading gets over the end. -/
def Never {α : Type} (_ : α) (_ : List Char) : Prop := False

/-- A reading that gets over the end has used the closing parenthesis up. -/
def Past {α : Type} (_ : α) (rest : List Char) : Prop := rest = [] ∨ rest = ['$']

/-- A reading that gets over the end leaves nothing but a part of the closing. -/
def Within {α : Type} (x : α) (rest : List Char) : Prop := rest = closing ∨ Past x rest

/-- A part of the closing starts with no other character. -/
theorem Within.ne_cons {α : Type} {x : α} {rest : List Char} (within : Within x rest) {c : Char}
    (other : c ∉ closing) (more : List Char) : rest ≠ c :: more := by
  rintro rfl
  rcases within with same | same | same
  · exact other (by rw [← same]; exact List.mem_cons_self)
  · cases same
  · obtain ⟨rfl, _⟩ := List.cons.inj same
    exact other (by decide)

namespace Beside

variable {α β : Type} {spill : α → List Char → Prop} {beyond : β → List Char → Prop}
variable {a b : Option (α × List Char)} {n m : Nat}

theorem mono (beside : Beside spill n a b) (more : n ≤ m) {further : α → List Char → Prop}
    (wider : ∀ x rest, spill x rest → further x rest) : Beside further m a b := by
  cases beside with
  | both short => exact .both (Nat.le_trans short more)
  | hidden => exact .hidden
  | neither => exact .neither
  | only gone => exact .only (wider _ _ gone)

theorem longer (beside : Beside spill n a b) (more : n ≤ m) : Beside spill m a b :=
  beside.mono more fun _ _ gone => gone

/-- A reader that goes on from what another one left. -/
theorem bind {f g : α × List Char → Option (β × List Char)} (beside : Beside spill n a b)
    (goes : ∀ x rest, rest.length ≤ n → Beside beyond m (f (x, rest)) (g (x, rest ++ closing)))
    (ended : ∀ x, Beside beyond m (f (x, [])) (g (x, [])))
    (gone : ∀ x rest, spill x rest → Beside beyond m none (g (x, rest))) :
    Beside beyond m (a.bind f) (b.bind g) := by
  cases beside with
  | both short => exact goes _ _ short
  | hidden => exact ended _
  | neither => exact .neither
  | only h => exact gone _ _ h

/-- A reader that makes something else of what another one read. -/
theorem filterMap {f : α → Option β} (beside : Beside spill n a b)
    (gone : ∀ x rest y, spill x rest → f x = some y → beyond y rest) :
    Beside beyond n (a.bind fun r => (f r.1).map fun y => (y, r.2))
      (b.bind fun r => (f r.1).map fun y => (y, r.2)) := by
  cases beside with
  | @both x rest short =>
    dsimp only [Option.bind_some]
    cases f x with
    | none => exact .neither
    | some y => exact .both short
  | @hidden x =>
    dsimp only [Option.bind_some]
    cases f x with
    | none => exact .neither
    | some y => exact .hidden
  | neither => exact .neither
  | @only x rest h =>
    dsimp only [Option.bind_some, Option.bind_none]
    match made : f x with
    | none => exact .neither
    | some y => exact .only (gone x rest y h made)

theorem map {f : α → β} (beside : Beside spill n a b)
    (gone : ∀ x rest, spill x rest → beyond (f x) rest) :
    Beside beyond n (a.map fun r => (f r.1, r.2)) (b.map fun r => (f r.1, r.2)) := by
  cases beside with
  | both short => exact .both short
  | hidden => exact .hidden
  | neither => exact .neither
  | only h => exact .only (gone _ _ h)

/-- A reading of nothing at all is beside itself, as long as it leaves nothing. -/
theorem refl (spent : ∀ x rest, a = some (x, rest) → rest = []) : Beside spill n a a := by
  match a with
  | none => exact .neither
  | some (x, rest) =>
    rw [spent x rest rfl]
    exact .hidden

end Beside

/-! ### Blanks and comments -/

private theorem go_length (fuel : Nat) (s : List Char) :
    (skipSpace.go fuel s).length ≤ s.length := by
  fun_induction skipSpace.go fuel s with
  | case1 | case4 | case5 => exact Nat.le_refl _
  | case2 fuel rest ih =>
    have := (rest.dropWhile_suffix (· != '\n')).length_le
    simp only [List.length_drop, List.length_cons] at ih ⊢
    omega
  | case3 fuel c rest _ _ ih => exact Nat.le_succ_of_le ih

theorem skipSpace_length (verbose : Bool) (s : List Char) :
    (skipSpace verbose s).length ≤ s.length := by
  rw [skipSpace]
  split
  · exact go_length _ s
  · exact Nat.le_refl _

@[simp] theorem skipSpace_nil (verbose : Bool) : skipSpace verbose [] = [] := by
  cases verbose <;> rfl

private theorem go_nil (fuel : Nat) : skipSpace.go fuel [] = [] := by
  cases fuel <;> rfl

private theorem go_comment (fuel : Nat) (rest : List Char) :
    skipSpace.go (fuel + 1) ('#' :: rest) =
      skipSpace.go fuel ((rest.dropWhile (· != '\n')).drop 1) := by
  rfl

private theorem go_char (fuel : Nat) {c : Char} (rest : List Char) (plain : c ≠ '#') :
    skipSpace.go (fuel + 1) (c :: rest) =
      if Text.isBlank c then skipSpace.go fuel rest else c :: rest := by
  rw [skipSpace.go.eq_def]
  dsimp only
  split
  case h_1 same => cases same; contradiction
  case h_2 same => cases same; rfl
  case h_3 same => cases same

private theorem go_solid (fuel : Nat) {c : Char} (rest : List Char) (plain : c ≠ '#')
    (solid : Text.isBlank c = false) : skipSpace.go fuel (c :: rest) = c :: rest := by
  cases fuel with
  | zero => rfl
  | succ fuel => rw [go_char fuel rest plain, solid]; rfl

/-- A character that is neither blank nor starts a comment stays. -/
theorem skipSpace_solid (verbose : Bool) {c : Char} (rest : List Char) (plain : c ≠ '#')
    (solid : Text.isBlank c = false) : skipSpace verbose (c :: rest) = c :: rest := by
  cases verbose with
  | false => rfl
  | true => exact go_solid _ rest plain solid

private theorem go_behind (n m : Nat) (s : List Char) (enough : s.length < n)
    (more : s.length < m) :
    skipSpace.go m (s ++ closing) = skipSpace.go n s ++ closing ∨
      (skipSpace.go n s = [] ∧ skipSpace.go m (s ++ closing) = []) := by
  induction n generalizing m s with
  | zero => omega
  | succ n ih =>
    obtain ⟨m, rfl⟩ : ∃ k, m = k + 1 := ⟨m - 1, by omega⟩
    match s with
    | [] => exact .inl (go_solid _ _ (by decide) (by decide))
    | c :: s =>
      simp only [List.length_cons] at enough more
      by_cases comment : c = '#'
      · subst comment
        rw [List.cons_append, go_comment, go_comment, List.dropWhile_append]
        match left : s.dropWhile (· != '\n') with
        | [] => exact .inr ⟨go_nil n, go_nil m⟩
        | d :: rest =>
          have := (s.dropWhile_suffix (· != '\n')).length_le
          rw [left, List.length_cons] at this
          exact ih m rest (by omega) (by omega)
      · rw [List.cons_append, go_char _ _ comment, go_char _ _ comment]
        split
        · exact ih m s (by omega) (by omega)
        · exact .inl rfl

/-- Blanks and comments are passed over as they are without the closing, unless a comment runs over
it. -/
theorem skipSpace_behind (verbose : Bool) (s : List Char) :
    (∃ w, w.length ≤ s.length ∧ skipSpace verbose s = w ∧
      skipSpace verbose (s ++ closing) = w ++ closing) ∨
    (skipSpace verbose s = [] ∧ skipSpace verbose (s ++ closing) = []) := by
  cases verbose with
  | false => exact .inl ⟨s, Nat.le_refl _, rfl, rfl⟩
  | true =>
    have short := skipSpace_length true s
    rcases go_behind (s.length + 1) ((s ++ closing).length + 1) s (by omega)
      (length_lt_behind s) with same | spent
    · exact .inl ⟨_, short, rfl, same⟩
    · exact .inr spent

theorem skipSpace_closing (verbose : Bool) : skipSpace verbose closing = closing :=
  skipSpace_solid verbose _ (by decide) (by decide)

theorem skipSpace_dollar (verbose : Bool) : skipSpace verbose ['$'] = ['$'] :=
  skipSpace_solid verbose _ (by decide) (by decide)

/-- A reader that passes over blanks and comments last. -/
theorem Beside.skip {α : Type} {spill : α → List Char → Prop} {n : Nat} (verbose : Bool) (x : α)
    {s : List Char} (short : s.length ≤ n) :
    Beside spill n (some (x, skipSpace verbose s))
      (some (x, skipSpace verbose (s ++ closing))) := by
  rcases skipSpace_behind verbose s with ⟨w, shorter, same, behind⟩ | ⟨spent, hidden⟩
  · rw [same, behind]
    exact .both (Nat.le_trans shorter short)
  · rw [spent, hidden]
    exact .hidden

/-- A name is cut off in the same place, or runs over the closing. -/
theorem name_behind {p : Char → Bool} (passes : closing.takeWhile p = closing) (s : List Char) :
    (s.drop (s.takeWhile p).length = [] ∧
      (s ++ closing).drop ((s ++ closing).takeWhile p).length = []) ∨
    ((s ++ closing).takeWhile p = s.takeWhile p ∧
      (s ++ closing).drop (s.takeWhile p).length = s.drop (s.takeWhile p).length ++ closing) := by
  have short := (s.takeWhile_prefix p).length_le
  rw [List.takeWhile_append]
  split
  case isTrue whole =>
    rw [passes]
    exact .inl ⟨List.drop_eq_nil_of_le (by omega), List.drop_length⟩
  case isFalse => exact .inr ⟨rfl, List.drop_append_of_le_length short⟩

/-! ### Escapes -/

variable {spill : Char → List Char → Prop} (flags : Flags)

private theorem braced_hex (s back : List Char) (n m : Nat) (enough : s.length < n)
    (more : s.length < m) :
    Beside spill s.length (takeHex.braced flags s back n)
      (takeHex.braced flags (s ++ closing) back m) := by
  induction n generalizing s back m with
  | zero => omega
  | succ n ih =>
    obtain ⟨m, rfl⟩ : ∃ k, m = k + 1 := ⟨m - 1, by omega⟩
    rw [takeHex.braced, takeHex.braced]
    rcases skipSpace_behind flags.verbose s with ⟨w, short, same, behind⟩ | ⟨spent, hidden⟩
    · rw [same, behind]
      cases w with
      | nil => exact .neither
      | cons c rest =>
        rw [List.length_cons] at short
        by_cases last : c = '\x7d'
        · subst last
          simp only [List.cons_append]
          split
          · exact .neither
          · cases takeHex.char? back with
            | none => exact .neither
            | some x => exact .skip flags.verbose x (by omega)
        · simp only [List.cons_append]
          split
          · exact (ih rest (c :: back) m (by omega) (by omega)).longer (by omega)
          · exact .neither
    · rw [spent, hidden]
      exact .neither

private theorem fixed_nil (width count : Nat) (back : List Char) :
    takeHex.fixed flags width count [] back = none := by
  match count with
  | 0 | 1 | _ + 2 => rfl

private theorem fixed_hex (width : Nat) : ∀ (count : Nat) (s back : List Char),
    Beside spill s.length (takeHex.fixed flags width count s back)
      (takeHex.fixed flags width count (s ++ closing) back)
  | 0, _, _ => .neither
  | 1, [], _ => .neither
  | 1, c :: rest, back => by
    rw [List.cons_append, takeHex.fixed, takeHex.fixed]
    split
    · cases Option.filter _ (takeHex.char? (c :: back)) with
      | none => exact .neither
      | some x => exact .skip flags.verbose x (Nat.le_succ _)
    · exact .neither
  | _ + 2, [], _ => .neither
  | count + 2, c :: rest, back => by
    rw [List.cons_append, takeHex.fixed, takeHex.fixed]
    split
    · rcases skipSpace_behind flags.verbose rest with ⟨w, short, same, behind⟩ | ⟨spent, hidden⟩
      · rw [same, behind]
        exact (fixed_hex width (count + 1) w (c :: back)).longer (Nat.le_succ_of_le short)
      · rw [spent, hidden, fixed_nil]
        exact .neither
    · exact .neither

theorem takeHex_beside (width : Nat) (s : List Char) :
    Beside spill s.length (takeHex flags width s) (takeHex flags width (s ++ closing)) := by
  rw [takeHex, takeHex]
  rcases skipSpace_behind flags.verbose s with ⟨w, short, same, behind⟩ | ⟨spent, hidden⟩
  · rw [same, behind]
    cases w with
    | nil => exact (fixed_hex flags width width [] []).longer (Nat.zero_le _)
    | cons c rest =>
      rw [List.length_cons] at short
      by_cases brace : c = '\x7b'
      · subst brace
        exact (braced_hex flags rest [] _ _ (by omega) (length_lt_behind _)).longer (by omega)
      · simp only [List.cons_append, List.cons.injEq, brace, false_and, imp_self, implies_true]
        exact (fixed_hex flags width width (c :: rest) []).longer short
  · rw [spent, hidden]
    dsimp only
    rw [fixed_nil]
    exact .neither

private theorem braced_nil (back : List Char) (n : Nat) :
    takeProperty.braced flags [] back n = none := by
  cases n with
  | zero => rfl
  | succ n => rw [takeProperty.braced, skipSpace_nil]

private theorem braced_dollar (back : List Char) (n : Nat) :
    takeProperty.braced flags ['$'] back n = none := by
  cases n with
  | zero => rfl
  | succ n =>
    rw [takeProperty.braced, skipSpace_dollar]
    exact braced_nil flags _ n

private theorem braced_property {spill : List Char → List Char → Prop} (s back : List Char)
    (n m : Nat) (enough : s.length < n) (more : s.length < m) :
    Beside spill s.length (takeProperty.braced flags s back n)
      (takeProperty.braced flags (s ++ closing) back m) := by
  induction n generalizing s back m with
  | zero => omega
  | succ n ih =>
    obtain ⟨m, rfl⟩ : ∃ k, m = k + 1 := ⟨m - 1, by omega⟩
    rw [takeProperty.braced, takeProperty.braced]
    rcases skipSpace_behind flags.verbose s with ⟨w, short, same, behind⟩ | ⟨spent, hidden⟩
    · rw [same, behind]
      cases w with
      | nil =>
        show Beside spill s.length none (takeProperty.braced flags ['$'] (')' :: back) m)
        rw [braced_dollar]
        exact .neither
      | cons c rest =>
        rw [List.length_cons] at short
        by_cases last : c = '\x7d'
        · subst last
          exact .both (by omega)
        · simp only [List.cons_append]
          exact (ih rest (c :: back) m (by omega) (by omega)).longer (by omega)
    · rw [spent, hidden]
      exact .neither

/-- The name of a property after its letter. -/
private def propertyName (s : List Char) : Option (List Char × List Char) :=
  match skipSpace flags.verbose s with
  | '\x7b' :: rest => takeProperty.braced flags rest [] (rest.length + 1)
  | c :: rest => if c == '\\' then none else some ([c], skipSpace flags.verbose rest)
  | [] => none

/-- The class that a property stands for. -/
private def propertyClass (negated : Bool) (name : List Char) : Option CharClass :=
  if !flags.unicode then none
  else (namedClass? name).map fun c => closeClass flags (negated != c.1) c.2

private theorem takeProperty_eq (negated : Bool) (s : List Char) :
    takeProperty flags negated s =
      (propertyName flags s).bind fun r =>
        (propertyClass flags negated r.1).map fun cls => (cls, r.2) := by
  have same : ∀ r : List Char × List Char,
      (if !flags.unicode then none
       else (namedClass? r.1).bind fun c =>
          some (closeClass flags (negated != c.1) c.2, r.2)) =
        (propertyClass flags negated r.1).map fun cls => (cls, r.2) := by
    intro r
    rw [propertyClass]
    cases flags.unicode with
    | false => rfl
    | true => cases namedClass? r.1 <;> rfl
  rw [takeProperty, propertyName]
  simp only [← same]
  generalize skipSpace flags.verbose s = w
  cases w with
  | nil => rfl
  | cons c rest =>
    by_cases brace : c = '\x7b'
    · subst brace
      rfl
    · simp only
      split <;> rfl

private theorem propertyName_beside (s : List Char) :
    Beside Past s.length (propertyName flags s) (propertyName flags (s ++ closing)) := by
  rw [propertyName, propertyName]
  rcases skipSpace_behind flags.verbose s with ⟨w, short, same, behind⟩ | ⟨spent, hidden⟩
  · rw [same, behind]
    cases w with
    | nil => exact .only (.inr (skipSpace_dollar flags.verbose))
    | cons c rest =>
      rw [List.length_cons] at short
      by_cases brace : c = '\x7b'
      · subst brace
        exact (braced_property flags rest [] _ _ (by omega) (length_lt_behind _)).longer (by omega)
      · simp only [List.cons_append]
        split
        · exact .neither
        · exact .skip flags.verbose [c] (by omega)
  · rw [spent, hidden]
    exact .neither

theorem takeProperty_beside (negated : Bool) (s : List Char) :
    Beside Past s.length (takeProperty flags negated s)
      (takeProperty flags negated (s ++ closing)) := by
  rw [takeProperty_eq, takeProperty_eq]
  exact (propertyName_beside flags s).filterMap fun _ _ _ past _ => past

private theorem name_edge {spill : String → List Char → Prop} (s back : List Char) (n m : Nat)
    (enough : s.length < n) (more : s.length < m) :
    Beside spill s.length (takeWordEdge.name flags s back n)
      (takeWordEdge.name flags (s ++ closing) back m) := by
  induction n generalizing s back m with
  | zero => omega
  | succ n ih =>
    obtain ⟨m, rfl⟩ : ∃ k, m = k + 1 := ⟨m - 1, by omega⟩
    match s with
    | [] => exact .neither
    | c :: rest =>
      rw [List.length_cons] at enough more
      by_cases last : c = '\x7d'
      · subst last
        exact .both (Nat.le_succ _)
      · simp only [takeWordEdge.name, List.cons_append]
        split
        · rcases skipSpace_behind flags.verbose rest with
            ⟨w, short, same, behind⟩ | ⟨spent, hidden⟩
          · rw [same, behind]
            exact (ih w (c :: back) m (by omega) (by omega)).longer (Nat.le_succ_of_le short)
          · rw [spent, hidden]
            have nothing : ∀ k, takeWordEdge.name flags [] (c :: back) k = none := by
              intro k
              cases k <;> rfl
            rw [nothing, nothing]
            exact .neither
        · exact .neither

/-- The kinds of word edges by their names. -/
private def edgeKind (words : CharClass) : String → Option Look
  | "start" => some (.wordStart words)
  | "end" => some (.wordEnd words)
  | "start-half" => some (.wordStartHalf words)
  | "end-half" => some (.wordEndHalf words)
  | _ => none

private theorem takeWordEdge_named {rest more : List Char} {c : Char} (edge : isEdgeChar c = true)
    (skipped : skipSpace flags.verbose rest = c :: more) :
    takeWordEdge flags ('\x7b' :: rest) =
      (takeWordEdge.name flags (c :: more) [] (more.length + 2)).bind fun r =>
        (edgeKind (wordsOf flags) r.1).map fun l => (l, r.2) := by
  rw [takeWordEdge, skipped]
  simp only [edge, Bool.not_true, Bool.false_eq_true, if_false]
  generalize takeWordEdge.name flags (c :: more) [] (more.length + 2) = named
  match named with
  | none => rfl
  | some (x, rest) =>
    rw [Option.bind_some]
    split
    case h_5 start ends startHalf endHalf =>
      rw [edgeKind]
      · rfl
      · exact fun same => start rest (congrArg (fun y => some (y, rest)) same)
      · exact fun same => ends rest (congrArg (fun y => some (y, rest)) same)
      · exact fun same => startHalf rest (congrArg (fun y => some (y, rest)) same)
      · exact fun same => endHalf rest (congrArg (fun y => some (y, rest)) same)
    all_goals
      rename_i same
      cases same
      rfl

/-- A reading that gets over the end of the text since it leaves an opening brace again, with
nothing but blanks before the closing. -/
def Reopened {α : Type} (_ : α) (rest : List Char) : Prop :=
  ∃ w, rest = '\x7b' :: w ∧ skipSpace flags.verbose w = closing

theorem takeWordEdge_beside (s : List Char) :
    Beside (Reopened flags) s.length (takeWordEdge flags s)
      (takeWordEdge flags (s ++ closing)) := by
  match s with
  | [] => exact .both (Nat.le_refl _)
  | c :: rest =>
    by_cases brace : c = '\x7b'
    · subst brace
      rw [List.cons_append]
      rcases skipSpace_behind flags.verbose rest with ⟨w, short, same, behind⟩ | ⟨spent, hidden⟩
      · cases w with
        | nil =>
          rw [takeWordEdge, takeWordEdge, same, behind]
          exact .only ⟨rest ++ closing, rfl, behind⟩
        | cons d more =>
          rw [List.length_cons] at short
          by_cases edge : isEdgeChar d = true
          · rw [takeWordEdge_named flags edge same, takeWordEdge_named flags edge behind]
            have named : Beside (Reopened flags) _ _ _ :=
              name_edge flags (d :: more) [] (more.length + 2) ((more ++ closing).length + 2)
                (by simp) (by simp only [List.length_cons, List.length_append]; omega)
            have read := named.filterMap (f := edgeKind (wordsOf flags)) fun _ _ _ h _ => h
            exact read.longer (Nat.le_succ_of_le short)
          · rw [takeWordEdge, takeWordEdge, same, behind]
            simp only [List.cons_append, edge]
            exact .both (Nat.le_refl _)
      · rw [takeWordEdge, takeWordEdge, spent, hidden]
        exact .neither
    · have plain : ∀ more,
          takeWordEdge flags (c :: more) = some (.wordEdge (wordsOf flags), c :: more) := by
        intro more
        rw [takeWordEdge]
        intro _ same
        exact brace (List.cons.inj same).1
      rw [List.cons_append, plain, plain]
      exact .both (Nat.le_refl _)

/-- An escape that gets over the end of the text uses up the closing parenthesis, or is a condition
before an opening brace. -/
def Escaped (x : Atom) (rest : List Char) : Prop :=
  Past x rest ∨ (Reopened flags x rest ∧ ∃ l, x = .look l)

theorem takeEscape_beside (s : List Char) :
    Beside (Escaped flags) s.length (takeEscape flags s) (takeEscape flags (s ++ closing)) := by
  match s with
  | [] => exact .only (.inl (.inr rfl))
  | c :: rest =>
    rw [List.cons_append]
    unfold takeEscape
    dsimp only
    refine Beside.longer (n := rest.length) ?_ (Nat.le_succ _)
    split
    · exact .neither
    split
    · exact (takeHex_beside flags 2 rest).map fun _ _ h => h
    split
    · exact (takeHex_beside flags 4 rest).map fun _ _ h => h
    split
    · exact (takeHex_beside flags 8 rest).map fun _ _ h => h
    split
    · exact (takeProperty_beside flags _ rest).map fun _ _ past => .inl past
    split
    · exact .both (Nat.le_refl _)
    split
    · exact .both (Nat.le_refl _)
    split
    case h_9 => exact (takeWordEdge_beside flags rest).map fun l _ again => .inr ⟨again, l, rfl⟩
    case h_13 => exact .neither
    all_goals exact .both (Nat.le_refl _)

end Wirelog.Pattern
