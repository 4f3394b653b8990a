import Wirelog.Proofs.PatternBrackets
/-!
Whole patterns with more text behind them. A pattern is read inside a group that it does not know
of: `under` puts such groups around a reading. What the closing does then depends on how the pattern
ends: it closes the group, or a comment runs over it, or the pattern is broken; and a parenthesis in
the pattern that closes no group of its own closes the one around it.
-/
namespace Wirelog.Pattern

variable (flags : Flags)

/-! ### Repetition -/

private theorem dropBlank_behind (s : List Char) :
    (s ++ closing).dropWhile Text.isBlank = s.dropWhile Text.isBlank ++ closing := by
  have solid : closing.dropWhile Text.isBlank = closing := by decide
  rw [List.dropWhile_append]
  split
  case isTrue spent =>
    rw [List.isEmpty_iff.mp spent, solid]
    rfl
  case isFalse => rfl

private theorem finish_beside {spill : Nat → List Char → Prop} (back s : List Char) :
    Beside spill s.length (takeCount.finish back s) (takeCount.finish back (s ++ closing)) := by
  have short := (s.dropWhile_suffix Text.isBlank).length_le
  rw [takeCount.finish, takeCount.finish, dropBlank_behind]
  split
  · exact .neither
  split
  · split
    · exact .both short
    · exact .neither
  · exact .neither

private theorem finish_nil {back rest : List Char} {n : Nat}
    (read : takeCount.finish back [] = some (n, rest)) : rest = [] := by
  rw [takeCount.finish] at read
  split at read
  · cases read
  split at read
  · split at read
    · cases read
      rfl
    · cases read
  · cases read

private theorem digits_beside {spill : Nat → List Char → Prop} (s back : List Char) (n m : Nat)
    (enough : s.length < n) (more : s.length < m) :
    Beside spill s.length (takeCount.digits flags s back n)
      (takeCount.digits flags (s ++ closing) back m) := by
  induction n generalizing s back m with
  | zero => omega
  | succ n ih =>
    obtain ⟨m, rfl⟩ : ∃ k, m = k + 1 := ⟨m - 1, by omega⟩
    match s with
    | [] => exact finish_beside back []
    | c :: rest =>
      rw [List.length_cons] at enough more
      rw [List.cons_append, takeCount.digits, takeCount.digits]
      split
      · rcases skipSpace_behind flags.verbose rest with ⟨w, short, same, behind⟩ | ⟨spent, hidden⟩
        · rw [same, behind]
          exact (ih w (c :: back) m (by omega) (by omega)).longer (Nat.le_succ_of_le short)
        · rw [spent, hidden]
          obtain ⟨n, rfl⟩ : ∃ k, n = k + 1 := ⟨n - 1, by omega⟩
          obtain ⟨m, rfl⟩ : ∃ k, m = k + 1 := ⟨m - 1, by omega⟩
          exact .refl fun _ _ => finish_nil
      · exact finish_beside back (c :: rest)

theorem takeCount_beside {spill : Nat → List Char → Prop} (s : List Char) :
    Beside spill s.length (takeCount flags s) (takeCount flags (s ++ closing)) := by
  have short := (s.dropWhile_suffix Text.isBlank).length_le
  rw [takeCount, takeCount, dropBlank_behind]
  exact (digits_beside flags (s.dropWhile Text.isBlank) [] (s.length + 1)
    ((s ++ closing).length + 1) (by omega) (by rw [List.length_append]; omega)).longer short

/-- The end of a repetition with two bounds. -/
private def upTo (low high : Nat) (s : List Char) : Option ((Nat × Option Nat) × List Char) :=
  match s with
  | '\x7d' :: rest => if low ≤ high then some ((low, some high), rest) else none
  | _ => none

private theorem upTo_none {c : Char} (low high : Nat) (other : c ≠ '\x7d') (rest : List Char) :
    upTo low high (c :: rest) = none := by
  rw [upTo]
  intro _ same
  exact other (List.cons.inj same).1

/-- What follows the lower bound of a repetition. -/
private def fromLow (low : Nat) (s : List Char) : Option ((Nat × Option Nat) × List Char) :=
  match s with
  | '\x7d' :: rest => some ((low, some low), rest)
  | ',' :: rest =>
    match skipSpace flags.verbose rest with
    | '\x7d' :: rest => some ((low, none), rest)
    | [] => none
    | rest => (takeCount flags rest).bind fun high => upTo low high.1 high.2
  | _ => none

private theorem takeBounds_eq (s : List Char) :
    takeBounds flags s =
      if (skipSpace flags.verbose s).isEmpty then none
      else
        (takeCount flags (skipSpace flags.verbose s)).bind fun low =>
          (fromLow flags low.1 low.2).map fun r => (r.1.1, r.1.2, r.2) := by
  rw [takeBounds]
  dsimp only
  split
  · rfl
  refine congrArg _ (funext fun low => ?_)
  obtain ⟨low, s⟩ := low
  match s with
  | [] => rfl
  | c :: rest =>
    by_cases last : c = '\x7d'
    · subst last
      rfl
    by_cases comma : c = ','
    · subst comma
      simp only [fromLow]
      generalize skipSpace flags.verbose rest = w
      match w with
      | [] => rfl
      | d :: more =>
        by_cases last : d = '\x7d'
        · subst last
          rfl
        · simp only [List.cons.injEq, last, false_and, imp_self, implies_true]
          rw [Option.map_bind]
          refine congrArg _ (funext fun high => ?_)
          obtain ⟨high, s⟩ := high
          match s with
          | [] => rfl
          | e :: left =>
            by_cases shut : e = '\x7d'
            · subst shut
              simp only [upTo, Function.comp_def]
              split <;> rfl
            · rw [Function.comp_apply, upTo_none low high shut]
              simp only [List.cons.injEq, shut, false_and, imp_self, implies_true]
              rfl
    · rw [fromLow]
      · simp [last, comma]
      · exact fun _ same => last (List.cons.inj same).1
      · exact fun _ same => comma (List.cons.inj same).1

private theorem upTo_beside {spill : Nat × Option Nat → List Char → Prop} (low high : Nat)
    (s : List Char) : Beside spill s.length (upTo low high s) (upTo low high (s ++ closing)) := by
  match s with
  | [] => exact .neither
  | c :: rest =>
    by_cases last : c = '\x7d'
    · subst last
      rw [List.cons_append, upTo, upTo]
      split
      · exact .both (Nat.le_succ _)
      · exact .neither
    · rw [List.cons_append, upTo_none low high last, upTo_none low high last]
      exact .neither

private theorem takeCount_closing : takeCount flags closing = none := by
  have read : Beside Never 0 (takeCount flags []) (takeCount flags closing) :=
    takeCount_beside flags []
  have nothing : takeCount flags [] = none := rfl
  rw [nothing] at read
  generalize takeCount flags closing = b at read
  cases read with
  | neither => rfl
  | only h => exact h.elim

private theorem fromLow_beside {spill : Nat × Option Nat → List Char → Prop} (low : Nat)
    (s : List Char) :
    Beside spill s.length (fromLow flags low s) (fromLow flags low (s ++ closing)) := by
  match s with
  | [] => exact .neither
  | c :: rest =>
    by_cases last : c = '\x7d'
    · subst last
      exact .both (Nat.le_succ _)
    by_cases comma : c = ','
    · subst comma
      rw [List.cons_append, fromLow, fromLow]
      rcases skipSpace_behind flags.verbose rest with ⟨w, short, same, behind⟩ | ⟨spent, hidden⟩
      · rw [same, behind]
        match w with
        | [] =>
          show Beside spill _ none
            ((takeCount flags closing).bind fun high => upTo low high.1 high.2)
          rw [takeCount_closing]
          exact .neither
        | d :: more =>
          by_cases last : d = '\x7d'
          · subst last
            exact .both (by simp only [List.length_cons] at short ⊢; omega)
          · simp only [List.cons_append, List.cons.injEq, last, false_and, imp_self, implies_true]
            have counted : Beside Never _ _ _ := takeCount_beside flags (d :: more)
            refine counted.bind (fun high rest shorter => ?_) (fun high => .neither)
              fun _ _ h => h.elim
            refine (upTo_beside low high rest).longer ?_
            simp only [List.length_cons] at shorter short ⊢
            omega
      · rw [spent, hidden]
        exact .neither
    · have nothing : ∀ more, fromLow flags low (c :: more) = none := by
        intro more
        rw [fromLow]
        · exact fun _ same => last (List.cons.inj same).1
        · exact fun _ same => comma (List.cons.inj same).1
      rw [List.cons_append, nothing, nothing]
      exact .neither

private theorem takeBounds_beside (s : List Char) :
    Beside Never s.length ((takeBounds flags s).map fun r => ((r.1, r.2.1), r.2.2))
      ((takeBounds flags (s ++ closing)).map fun r => ((r.1, r.2.1), r.2.2)) := by
  rw [takeBounds_eq, takeBounds_eq]
  rcases skipSpace_behind flags.verbose s with ⟨w, short, same, behind⟩ | ⟨spent, hidden⟩
  · rw [same, behind]
    match w with
    | [] =>
      have held : ([] ++ closing).isEmpty = false := rfl
      rw [held, List.nil_append, takeCount_closing]
      exact .neither
    | c :: rest =>
      simp only [List.isEmpty_cons, List.cons_append, Bool.false_eq_true, if_false,
        Option.map_bind, Function.comp_def, Option.map_map]
      have counted : Beside Never _ _ _ := takeCount_beside flags (c :: rest)
      refine counted.bind (fun low rest shorter => ?_) (fun low => .neither) fun _ _ h => h.elim
      have bounds : Beside Never _ _ _ := fromLow_beside flags low rest
      exact (bounds.map (f := id) fun _ _ h => h).longer (by omega)
  · rw [spent, hidden]
    exact .neither

private theorem fromLow_ordered {low : Nat} {s rest : List Char} {bounds : Nat × Option Nat}
    (read : fromLow flags low s = some (bounds, rest)) : ∀ h ∈ bounds.2, bounds.1 ≤ h := by
  unfold fromLow at read
  split at read
  · cases read
    rintro h ⟨⟩
    exact Nat.le_refl _
  · split at read
    · cases read
      nofun
    · cases read
    · obtain ⟨high, _, last⟩ := Option.bind_eq_some_iff.mp read
      unfold upTo at last
      split at last
      · split at last
        case isTrue ordered =>
          cases last
          rintro h ⟨⟩
          exact ordered
        case isFalse => cases last
      · cases last
  · cases read

/-- The bounds of a repetition are in order. -/
theorem takeBounds_ordered {s rest : List Char} {low : Nat} {high : Option Nat}
    (read : takeBounds flags s = some (low, high, rest)) : ∀ h ∈ high, low ≤ h := by
  rw [takeBounds_eq] at read
  split at read
  · cases read
  · obtain ⟨⟨count, left⟩, _, more⟩ := Option.bind_eq_some_iff.mp read
    obtain ⟨bounds, found, same⟩ := Option.map_eq_some_iff.mp more
    cases same
    exact fromLow_ordered flags found

/-- A reader that goes on from the bounds of a repetition. -/
private theorem takeBounds_bind {β : Type} {spill : β → List Char → Prop} {n : Nat} (s : List Char)
    {f : Nat × Option Nat × List Char → Option (β × List Char)}
    (goes : ∀ low high rest, rest.length ≤ s.length →
      Beside spill n (f (low, high, rest)) (f (low, high, rest ++ closing)))
    (ended : ∀ low high, Beside spill n (f (low, high, [])) (f (low, high, []))) :
    Beside spill n ((takeBounds flags s).bind f) ((takeBounds flags (s ++ closing)).bind f) := by
  have beside := (takeBounds_beside flags s).bind (f := fun r => f (r.1.1, r.1.2, r.2))
    (g := fun r => f (r.1.1, r.1.2, r.2)) (fun _ _ short => goes _ _ _ short) (fun _ => ended _ _)
    fun _ _ h => h.elim
  rw [Option.bind_map, Option.bind_map] at beside
  exact beside

/-! ### Groups -/

/-- Flags that get over the end of the text stop at the closing parenthesis. -/
private def AtClosing (_ : Flags) (rest : List Char) : Prop := rest = closing

private theorem go_flags (on dangling : Bool) (seen s : List Char) :
    Beside AtClosing s.length (takeFlags.go flags on seen dangling s)
      (takeFlags.go flags on seen dangling (s ++ closing)) := by
  induction s generalizing flags on dangling seen with
  | nil =>
    show Beside AtClosing 0 none
      (if dangling then none else if seen.isEmpty then none else some (flags, closing))
    split
    · exact .neither
    split
    · exact .neither
    · exact .only rfl
  | cons c rest ih =>
    have more : rest.length ≤ (c :: rest).length := Nat.le_succ _
    rw [List.cons_append, takeFlags.go, takeFlags.go]
    split
    · split
      · exact .neither
      split
      · exact .neither
      · exact .both (Nat.le_refl _)
    split
    · exact .neither
    split
    · exact (ih flags false true (c :: seen)).longer more
    · split
      · exact (ih _ on false (c :: seen)).longer more
      · exact .neither

private theorem takeFlags_beside (s : List Char) :
    Beside AtClosing s.length (takeFlags flags s) (takeFlags flags (s ++ closing)) :=
  go_flags flags true false [] s

/-- The name of a group, when a closing angle bracket follows it. -/
private def groupName (name s : List Char) : Option (String × List Char) :=
  match name, s with
  | c :: cs, '>' :: rest =>
    if isNameChar true c && cs.all (isNameChar false) then some (String.ofList name, rest) else none
  | _, _ => none

private theorem groupName_open (name : List Char) {s : List Char}
    (unclosed : ∀ rest, s ≠ '>' :: rest) :
    groupName name s = none := by
  rw [groupName]
  exact fun _ _ rest _ same => unclosed rest same

private theorem groupName_beside {spill : String → List Char → Prop} (name s : List Char) :
    Beside spill s.length (groupName name s) (groupName name (s ++ closing)) := by
  match name, s with
  | [], _ => exact .neither
  | _ :: _, [] => exact .neither
  | c :: cs, d :: rest =>
    by_cases last : d = '>'
    · subst last
      rw [List.cons_append, groupName, groupName]
      split
      · exact .both (Nat.le_succ _)
      · exact .neither
    · have unclosed : ∀ rest more, d :: rest ≠ '>' :: more :=
        fun _ _ same => last (List.cons.inj same).1
      rw [List.cons_append, groupName_open _ (unclosed _), groupName_open _ (unclosed _)]
      exact .neither

private theorem takeGroupName_beside {spill : String → List Char → Prop} (s : List Char) :
    Beside spill s.length (takeGroupName s) (takeGroupName (s ++ closing)) := by
  show Beside spill s.length
    (groupName (s.takeWhile (· != '>')) (s.drop (s.takeWhile (· != '>')).length))
    (groupName ((s ++ closing).takeWhile (· != '>'))
      ((s ++ closing).drop ((s ++ closing).takeWhile (· != '>')).length))
  rcases name_behind (p := (· != '>')) rfl s with ⟨spent, also⟩ | ⟨same, behind⟩
  · have unclosed : ∀ rest, ([] : List Char) ≠ '>' :: rest := nofun
    rw [spent, also, groupName_open _ unclosed, groupName_open _ unclosed]
    exact .neither
  · rw [same, behind]
    have short := (s.drop_suffix (s.takeWhile (· != '>')).length).length_le
    exact (groupName_beside _ _).longer short

/-- What flags open. -/
private def flagOpening (read : Option (Flags × List Char)) : Option (Opening × List Char) :=
  match read with
  | some (flags, ')' :: rest) => some (.directive flags, rest)
  | some (flags, ':' :: rest) => some (.plain flags, rest)
  | _ => none

private theorem flagOpening_beside (s : List Char) :
    Beside Past s.length (flagOpening (takeFlags flags s))
      (flagOpening (takeFlags flags (s ++ closing))) := by
  have read := takeFlags_beside flags s
  generalize takeFlags flags s = a at read
  generalize takeFlags flags (s ++ closing) = b at read
  cases read with
  | neither => exact .neither
  | hidden => exact .neither
  | only gone =>
    cases gone
    exact .only (.inr rfl)
  | @both f rest short =>
    match rest with
    | [] => exact .only (.inr rfl)
    | c :: rest =>
      rw [List.length_cons] at short
      by_cases last : c = ')'
      · subst last
        exact .both (by omega)
      by_cases colon : c = ':'
      · subst colon
        exact .both (by omega)
      have nothing : ∀ more, flagOpening (some (f, c :: more)) = none := by
        intro more
        simp [flagOpening, last, colon]
      rw [List.cons_append, nothing, nothing]
      exact .neither

/-- What a question mark after an opening parenthesis opens. -/
private def markedOpening (s : List Char) : Option (Opening × List Char) :=
  match s with
  | 'P' :: '<' :: rest => (takeGroupName rest).map fun r => (.named r.1, r.2)
  | '=' :: _ | '!' :: _ | '<' :: '=' :: _ | '<' :: '!' :: _ => none
  | '<' :: rest => (takeGroupName rest).map fun r => (.named r.1, r.2)
  | _ => flagOpening (takeFlags flags s)

private theorem named_beside {n : Nat} {s : List Char} (short : s.length ≤ n) :
    Beside Past n ((takeGroupName s).map fun r => (Opening.named r.1, r.2))
      ((takeGroupName (s ++ closing)).map fun r => (Opening.named r.1, r.2)) := by
  have name : Beside Past _ _ _ := takeGroupName_beside s
  exact (name.map (f := Opening.named) fun _ _ past => past).longer short

private theorem markedOpening_beside (s : List Char) :
    Beside Past s.length (markedOpening flags s) (markedOpening flags (s ++ closing)) := by
  match s with
  | [] => exact flagOpening_beside flags []
  | c :: rest =>
    by_cases lead : c = 'P'
    · subst lead
      match rest with
      | [] => exact flagOpening_beside flags ['P']
      | d :: more =>
        by_cases angle : d = '<'
        · subst angle
          exact named_beside (by simp only [List.length_cons]; omega)
        · have flagged : ∀ more, markedOpening flags ('P' :: d :: more) =
              flagOpening (takeFlags flags ('P' :: d :: more)) := by
            intro more
            rw [markedOpening]
            all_goals
              intro rest same
              cases same <;> contradiction
          rw [List.cons_append, List.cons_append, flagged, flagged]
          exact flagOpening_beside flags ('P' :: d :: more)
    by_cases ahead : c = '='
    · subst ahead
      exact .neither
    by_cases notAhead : c = '!'
    · subst notAhead
      exact .neither
    by_cases angle : c = '<'
    · subst angle
      match rest with
      | [] => exact named_beside (s := []) (Nat.zero_le _)
      | d :: more =>
        by_cases behind : d = '='
        · subst behind
          exact .neither
        by_cases notBehind : d = '!'
        · subst notBehind
          exact .neither
        have name : ∀ more, markedOpening flags ('<' :: d :: more) =
            (takeGroupName (d :: more)).map fun r => (.named r.1, r.2) := by
          intro more
          rw [markedOpening]
          all_goals
            intro rest same
            cases same
            contradiction
        rw [List.cons_append, List.cons_append, name, name]
        exact named_beside (s := d :: more) (Nat.le_succ _)
    have flagged : ∀ more, markedOpening flags (c :: more) =
        flagOpening (takeFlags flags (c :: more)) := by
      intro more
      rw [markedOpening]
      all_goals
        intro rest same
        cases same
        contradiction
    rw [List.cons_append, flagged, flagged]
    exact flagOpening_beside flags (c :: rest)

theorem takeOpening_beside (s : List Char) :
    Beside Past s.length (takeOpening flags s) (takeOpening flags (s ++ closing)) := by
  rw [takeOpening, takeOpening]
  rcases skipSpace_behind flags.verbose s with ⟨w, short, same, behind⟩ | ⟨spent, hidden⟩
  · rw [same, behind]
    match w with
    | [] => exact .both (Nat.zero_le _)
    | c :: rest =>
      rw [List.length_cons] at short
      by_cases mark : c = '?'
      · subst mark
        exact (markedOpening_beside flags rest).longer (by omega)
      · simp only [List.cons_append, List.cons.injEq, mark, false_and, imp_self, implies_true]
        exact .both short
  · rw [spent, hidden]
    exact .hidden

/-! ### Items -/

namespace Reading

theorem takeLazy_behind (s : List Char) :
    takeLazy (s ++ closing) = ((takeLazy s).1, (takeLazy s).2 ++ closing) := by
  match s with
  | [] => rfl
  | c :: rest =>
    by_cases mark : c = '?'
    · subst mark
      rfl
    · have plain : ∀ more, takeLazy (c :: more) = (false, c :: more) := by
        intro more
        rw [takeLazy]
        intro _ same
        exact mark (List.cons.inj same).1
      rw [List.cons_append, plain, plain]
      rfl

theorem takeLazy_length (s : List Char) : (takeLazy s).2.length ≤ s.length := by
  rw [takeLazy.eq_def]
  split
  · exact Nat.le_succ _
  · exact Nat.le_refl _

/-- A reading of an item that gets over the end of the text uses up the closing parenthesis, or
leaves an opening brace with nothing behind it. -/
def Spilt (r : Reading) (rest : List Char) : Prop :=
  Past r rest ∨ Reopened r.flags r rest

variable (r : Reading)

private theorem repeat_beside (low : Nat) (high : Option Nat) (s : List Char) :
    Beside Spilt s.length
      ((repeatLast r.flags r.items low high (takeLazy s).1).map fun items =>
        ({ r with items }, (takeLazy s).2))
      ((repeatLast r.flags r.items low high (takeLazy (s ++ closing)).1).map fun items =>
        ({ r with items }, (takeLazy (s ++ closing)).2)) := by
  rw [takeLazy_behind]
  cases repeatLast r.flags r.items low high (takeLazy s).1 with
  | none => exact .neither
  | some items => exact .both (takeLazy_length s)

private theorem repeat_nil (low : Nat) (high : Option Nat) {n : Nat} :
    Beside Spilt n
      ((repeatLast r.flags r.items low high (takeLazy []).1).map fun items =>
        ({ r with items }, (takeLazy []).2))
      ((repeatLast r.flags r.items low high (takeLazy []).1).map fun items =>
        ({ r with items }, (takeLazy []).2)) := by
  cases repeatLast r.flags r.items low high (takeLazy []).1 with
  | none => exact .neither
  | some items => exact .hidden

/-- The reading after the opening of a group. -/
def opened : Opening → Option Reading
  | .directive flags => some { r with items := ⟨.empty, 0, true⟩ :: r.items, flags }
  | .plain flags => some (r.enter none flags)
  | .capture =>
    some ({ r with captures := r.captures + 1 }.enter (some (r.captures + 1)) r.flags)
  | .named name =>
    if r.names.any (·.1 == name) then none
    else
      some ({ r with
        captures := r.captures + 1
        names := r.names ++ [(name, r.captures + 1)] }.enter (some (r.captures + 1)) r.flags)

/-- The reading after an escape. -/
def escaped : Atom → Option Reading
  | .literal c => some (r.literal c)
  | .cls cls => if isSafe r.flags cls then some (r.push (.one cls) 0) else none
  | .look l => some (r.push (.look l) 0)

theorem step_open (s : List Char) :
    r.step '(' s =
      (takeOpening r.flags s).bind fun o => (r.opened o.1).map fun r => (r, o.2) := by
  rw [step]
  match takeOpening r.flags s with
  | none | some (.directive _, _) | some (.plain _, _) | some (.capture, _) => rfl
  | some (.named name, rest) =>
    simp only [Option.bind_some, opened]
    split <;> rfl

theorem step_escape (s : List Char) :
    r.step '\\' s =
      (takeEscape r.flags s).bind fun x => (r.escaped x.1).map fun r => (r, x.2) := by
  rw [step]
  match takeEscape r.flags s with
  | none | some (.literal _, _) | some (.look _, _) => rfl
  | some (.cls cls, rest) =>
    simp only [Option.bind_some, escaped]
    split <;> rfl

private theorem spilt_of_escaped {x : Atom} {rest : List Char} {made : Reading}
    (gone : Escaped r.flags x rest) (read : r.escaped x = some made) : Spilt made rest := by
  rcases gone with past | ⟨again, l, rfl⟩
  · exact .inl past
  · cases read
    exact .inr again

theorem step_beside (c : Char) (s : List Char) :
    Beside Spilt s.length (r.step c s) (r.step c (s ++ closing)) := by
  rw [step.eq_def, step.eq_def]
  dsimp only
  split
  case h_1 =>
    have read : Beside Spilt _ _ _ :=
      (takeOpening_beside r.flags s).filterMap (f := r.opened) fun _ _ _ past _ => .inl past
    rw [← step_open, ← step_open] at read
    exact read
  case h_2 =>
    cases r.leave with
    | none => exact .neither
    | some r => exact .both (Nat.le_refl _)
  case h_4 =>
    exact (takeClass_beside r.flags s).map (f := fun cls => r.push (.one cls.1) cls.2)
      fun _ _ h => h.elim
  case h_5 => exact r.repeat_beside 0 (some 1) s
  case h_6 => exact r.repeat_beside 0 none s
  case h_7 => exact r.repeat_beside 1 none s
  case h_8 =>
    split
    · exact .neither
    · refine takeBounds_bind r.flags s (fun low high rest short => ?_) fun low high => ?_
      · rcases skipSpace_behind r.flags.verbose rest with
          ⟨w, shorter, same, behind⟩ | ⟨spent, hidden⟩
        · simp only [same, behind]
          exact (r.repeat_beside low high w).longer (by omega)
        · simp only [spent, hidden]
          exact r.repeat_nil low high
      · simp only [skipSpace_nil]
        exact r.repeat_nil low high
  case h_9 =>
    cases dot? r.flags with
    | none => exact .neither
    | some cls => exact .both (Nat.le_refl _)
  case h_12 =>
    have read : Beside Spilt _ _ _ :=
      (takeEscape_beside r.flags s).filterMap (f := r.escaped) fun _ _ _ => r.spilt_of_escaped
    rw [← step_escape, ← step_escape] at read
    exact read
  all_goals exact .both (Nat.le_refl _)

/-! ### Readings inside groups -/

/-- A reading with more groups open around it. -/
def under (outer : List Frame) : Reading :=
  { r with frames := r.frames ++ outer }

variable {outer : List Frame}

@[simp] theorem flags_under : (r.under outer).flags = r.flags := rfl

@[simp] theorem items_under : (r.under outer).items = r.items := rfl

@[simp] theorem frames_under : (r.under outer).frames = r.frames ++ outer := rfl

private theorem opened_under (o : Opening) :
    (r.under outer).opened o = (r.opened o).map (under · outer) := by
  cases o with
  | directive | plain | capture => rfl
  | named name =>
    simp only [opened, apply_ite (Option.map (under · outer))]
    rfl

private theorem escaped_under (x : Atom) :
    (r.under outer).escaped x = (r.escaped x).map (under · outer) := by
  cases x with
  | literal c => rfl
  | look l => rfl
  | cls cls =>
    simp only [escaped, apply_ite (Option.map (under · outer))]
    rfl

private theorem leave_under (inside : r.frames ≠ []) :
    (r.under outer).leave = r.leave.map (under · outer) := by
  rw [leave, leave, frames_under]
  match r.frames, inside with
  | f :: frames, _ => rfl

private theorem repeat_under (low : Nat) (high : Option Nat) (lazy : Bool) (rest : List Char) :
    ((repeatLast (r.under outer).flags (r.under outer).items low high lazy).map fun items =>
        ({ r.under outer with items }, rest)) =
      ((repeatLast r.flags r.items low high lazy).map fun items => ({ r with items }, rest)).map
        fun p => (p.1.under outer, p.2) := by
  rw [flags_under, items_under, Option.map_map]
  rfl

/-- What an item reads does not depend on the groups around it, unless it closes one of them. -/
theorem step_under (c : Char) (s : List Char) (inside : c = ')' → r.frames ≠ []) :
    (r.under outer).step c s = (r.step c s).map fun p => (p.1.under outer, p.2) := by
  by_cases group : c = '('
  · subst group
    simp only [step_open, flags_under, opened_under, Option.map_bind, Option.map_map,
      Function.comp_def]
  by_cases escape : c = '\\'
  · subst escape
    simp only [step_escape, flags_under, escaped_under, Option.map_bind, Option.map_map,
      Function.comp_def]
  rw [step.eq_def, step.eq_def]
  dsimp only
  split
  case h_1 => exact (group rfl).elim
  case h_12 => exact (escape rfl).elim
  case h_2 =>
    rw [leave_under r (inside rfl), Option.map_map, Option.map_map]
    rfl
  case h_4 =>
    rw [flags_under, Option.map_map]
    rfl
  case h_5 => exact r.repeat_under 0 (some 1) _ _
  case h_6 => exact r.repeat_under 0 none _ _
  case h_7 => exact r.repeat_under 1 none _ _
  case h_8 =>
    rw [items_under, flags_under]
    split
    · rfl
    · rw [Option.map_bind]
      refine congrArg _ (funext fun bounds => ?_)
      exact r.repeat_under bounds.1 bounds.2.1 _ _
  case h_9 =>
    rw [flags_under, Option.map_map]
    rfl
  all_goals rfl

/-! ### Runs -/

theorem run_nil (n : Nat) : r.run [] (n + 1) = some r := by
  rw [run, skipSpace_nil]

theorem run_item {r : Reading} {s rest : List Char} {c : Char}
    (next : skipSpace r.flags.verbose s = c :: rest) (n : Nat) :
    r.run s (n + 1) = (r.step c rest).bind fun p => p.1.run p.2 n := by
  rw [run, next]
  dsimp only
  cases r.step c rest <;> rfl

/-- A reading that comes upon a closing parenthesis while no group of the pattern is open. -/
inductive Stray : Reading → List Char → Prop where
  | here {r : Reading} {s rest : List Char} (next : skipSpace r.flags.verbose s = ')' :: rest)
    (outside : r.frames = []) : Stray r s
  | later {r read : Reading} {s rest left : List Char} {c : Char}
    (next : skipSpace r.flags.verbose s = c :: rest) (step : r.step c rest = some (read, left))
    (stray : Stray read left) : Stray r s

/-- On its own, a pattern with such a parenthesis is none. -/
theorem run_stray {r : Reading} {s : List Char} (stray : Stray r s) (n : Nat) :
    r.run s n = none := by
  induction stray generalizing n with
  | @here r s rest next outside =>
    cases n with
    | zero => rfl
    | succ n =>
      have stuck : r.step ')' rest = none := by rw [step, leave, outside]; rfl
      rw [run_item next, stuck]
      rfl
  | later next step stray ih =>
    cases n with
    | zero => rfl
    | succ n =>
      rw [run_item next, step]
      exact ih n

/-- The reading of a pattern on its own beside its reading inside other groups and with the closing
behind it. It is told whether a comment has run over the closing. -/
inductive Behind (outer : List Frame) : Bool → Option Reading → Option Reading → Prop where
  /-- Both come to the end of the pattern, and the closing is next. -/
  | whole {r : Reading} {n : Nat} (enough : 2 < n) :
    Behind outer false (some r) ((r.under outer).run closing n)
  /-- Both come to the end of the pattern, but a comment has run over the closing. -/
  | hidden {r : Reading} : Behind outer true (some r) (some (r.under outer))
  /-- The pattern is broken, and the groups around it stay open. -/
  | broken {covered : Bool} {b : Option Reading}
    (unclosed : ∀ r, b = some r → ∃ inner, r.frames = inner ++ outer) : Behind outer covered none b

private theorem run_spilt {rest : List Char} (spilt : Spilt r rest) (n : Nat) {made : Reading}
    (read : (r.under outer).run rest n = some made) : ∃ inner, made.frames = inner ++ outer := by
  match n with
  | 0 => cases read
  | n + 1 =>
    rcases spilt with (rfl | rfl) | ⟨w, rfl, skipped⟩
    · rw [run_nil] at read
      cases read
      exact ⟨r.frames, rfl⟩
    · rw [run, skipSpace_dollar] at read
      simp only [step] at read
      match n with
      | 0 => cases read
      | n + 1 =>
        rw [run_nil] at read
        cases read
        exact ⟨r.frames, rfl⟩
    · have solid : skipSpace (r.under outer).flags.verbose ('\x7b' :: w) = '\x7b' :: w :=
        skipSpace_solid _ _ (by decide) (by decide)
      have unbounded : takeBounds r.flags w = none := by
        rw [takeBounds_eq, skipped, takeCount_closing]
        rfl
      rw [run, solid] at read
      simp only [step, flags_under, unbounded, Option.bind_none, ite_self] at read
      cases read

/-- What the closing does to a pattern without such a parenthesis. Whether a comment runs over it
depends on the pattern and not on the groups around it. -/
theorem run_behind (r : Reading) (s : List Char) (n : Nat) (tame : ¬ Stray r s)
    (enough : s.length < n) :
    ∃ covered, ∀ outer m, s.length + 2 < m →
      Behind outer covered (r.run s n) ((r.under outer).run (s ++ closing) m) := by
  induction n generalizing r s with
  | zero => omega
  | succ n ih =>
    rcases skipSpace_behind r.flags.verbose s with ⟨w, short, same, behind⟩ | ⟨spent, hidden⟩
    · match w with
      | [] =>
        refine ⟨false, fun outer m more => ?_⟩
        have closes : (r.under outer).run (s ++ closing) m = (r.under outer).run closing m := by
          obtain ⟨m, rfl⟩ : ∃ k, m = k + 1 := ⟨m - 1, by omega⟩
          rw [run, run, flags_under, behind, skipSpace_closing]
          rfl
        rw [run, same, closes]
        exact .whole (by omega)
      | c :: rest =>
        rw [List.length_cons] at short
        have inside : c = ')' → r.frames ≠ [] := by
          rintro rfl outside
          exact tame (.here same outside)
        have ahead : ∀ outer m, (r.under outer).run (s ++ closing) (m + 1) =
            (r.step c (rest ++ closing)).bind fun p => (p.1.under outer).run p.2 m := by
          intro outer m
          rw [run_item (r := r.under outer) behind, step_under r c _ inside, Option.bind_map]
          rfl
        rw [run_item same]
        have step := r.step_beside c rest
        generalize stepped : r.step c rest = a at step
        generalize r.step c (rest ++ closing) = b at step ahead
        cases step with
        | @both read left shorter =>
          have tamer : ¬ Stray read left := fun stray => tame (.later same stepped stray)
          obtain ⟨covered, behind⟩ := ih read left tamer (by omega)
          refine ⟨covered, fun outer m more => ?_⟩
          obtain ⟨m, rfl⟩ : ∃ k, m = k + 1 := ⟨m - 1, by omega⟩
          rw [ahead]
          exact behind outer m (by omega)
        | hidden =>
          refine ⟨true, fun outer m more => ?_⟩
          obtain ⟨n, rfl⟩ : ∃ k, n = k + 1 := ⟨n - 1, by omega⟩
          obtain ⟨m, rfl⟩ : ∃ k, m = k + 2 := ⟨m - 2, by omega⟩
          rw [ahead, Option.bind_some, Option.bind_some, run_nil, run_nil]
          exact .hidden
        | neither =>
          refine ⟨true, fun outer m more => .broken fun made read => ?_⟩
          obtain ⟨m, rfl⟩ : ∃ k, m = k + 1 := ⟨m - 1, by omega⟩
          rw [ahead] at read
          cases read
        | only spilt =>
          refine ⟨true, fun outer m more => .broken fun made read => ?_⟩
          obtain ⟨m, rfl⟩ : ∃ k, m = k + 1 := ⟨m - 1, by omega⟩
          rw [ahead] at read
          exact run_spilt _ spilt m read
    · refine ⟨true, fun outer m more => ?_⟩
      obtain ⟨m, rfl⟩ : ∃ k, m = k + 1 := ⟨m - 1, by omega⟩
      rw [run, run, flags_under, spent, hidden]
      exact .hidden

end Reading

end Wirelog.Pattern
