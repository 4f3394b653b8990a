import Wirelog.MediaType

/-! Two spellings of a media type. A type is read character by character, and the characters at
which it is divided are no letters, so it is read in the same places however its letters are
written. What is kept of the text is put in lower case, but for the values of parameters; of these
the charset is put in lower case, too. So of all that a type says, only other parameters depend on
letter case. -/
namespace Wirelog.TypeSpelling
open MediaType

/-! ## Letters -/

/-- The letters that have a lower case. -/
def capitals : List Char :=
  (List.range 26).map fun n => Char.ofNat (65 + n)

theorem toLower_other {c : Char} (other : c ∉ capitals) : c.toLower = c := by
  unfold Char.toLower
  split
  · rename_i within
    refine absurd ?_ other
    have low : 65 ≤ c.toNat := within.1
    have high : c.toNat ≤ 90 := within.2
    refine List.mem_map.mpr ⟨c.toNat - 65, List.mem_range.mpr (by omega), ?_⟩
    rw [Nat.add_sub_cancel' low, Char.ofNat_toNat]
  · rfl

/-- What is the same for the two cases of each letter does not depend on the case. -/
theorem fold_invariant {α : Type} [DecidableEq α] {f : Char → α}
    (letters : capitals.all fun c => f c.toLower = f c) (c : Char) : f c.toLower = f c := by
  by_cases letter : c ∈ capitals
  · exact of_decide_eq_true (List.all_eq_true.mp letters c letter)
  · rw [toLower_other letter]

theorem isTokenChar_toLower (c : Char) : isTokenChar c.toLower = isTokenChar c :=
  fold_invariant (f := isTokenChar) (by decide) c

theorem isQuotable_toLower (c : Char) : isQuotable c.toLower = isQuotable c :=
  fold_invariant (f := isQuotable) (by decide) c

theorem isBlank_toLower (c : Char) : Text.isBlank c.toLower = Text.isBlank c :=
  fold_invariant (f := Text.isBlank) (by decide) c

/-- The characters that media types are divided by. -/
def signs : List Char :=
  "/;=\" +*".toList

theorem sign_iff {x : Char} (sign : x ∈ signs) (c : Char) : c.toLower = x ↔ c = x := by
  have letters : signs.all fun x => capitals.all fun c => (c.toLower == x) = (c == x) := by decide
  have same : (c.toLower == x) = (c == x) :=
    fold_invariant (f := (· == x)) (List.all_eq_true.mp letters x sign) c
  rw [← beq_iff_eq, same, beq_iff_eq]

theorem other_sign {x c : Char} (sign : x ∈ signs) (other : c ≠ x) : c.toLower ≠ x :=
  mt (sign_iff sign c).mp other

/-! ## Texts -/

/-- Characters in lower case. -/
def low (s : List Char) : List Char :=
  s.map Char.toLower

theorem map_toLower (s : List Char) : s.map Char.toLower = low s :=
  rfl

@[simp] theorem low_nil : low [] = [] :=
  rfl

@[simp] theorem low_cons (c : Char) (s : List Char) : low (c :: s) = c.toLower :: low s :=
  rfl

@[simp] theorem length_low (s : List Char) : (low s).length = s.length :=
  List.length_map _

@[simp] theorem isEmpty_low (s : List Char) : (low s).isEmpty = s.isEmpty := by
  cases s <;> rfl

theorem low_low (s : List Char) : low (low s) = low s := by
  have again : Char.toLower ∘ Char.toLower = Char.toLower :=
    funext (fold_invariant (f := Char.toLower) (by decide))
  rw [low, low, List.map_map, again]

/-- A text of such characters is the same in either case. -/
theorem low_signs {t : List Char} (all : t ⊆ signs) (s : List Char) :
    low s = t ↔ s = t := by
  induction t generalizing s with
  | nil => cases s <;> simp
  | cons x t ih =>
    cases s with
    | nil => simp
    | cons c s =>
      have sign : x ∈ signs := all List.mem_cons_self
      have others := ih (fun y found => all (List.mem_cons_of_mem x found)) s
      simp [sign_iff sign, others]

theorem drop_low (n : Nat) (s : List Char) : (low s).drop n = low (s.drop n) := by
  simp [low]

theorem take_low (n : Nat) (s : List Char) : (low s).take n = low (s.take n) := by
  simp [low]

theorem takeWhile_low {p : Char → Bool} (fold : ∀ c, p c.toLower = p c) (s : List Char) :
    (low s).takeWhile p = low (s.takeWhile p) := by
  have same : p ∘ Char.toLower = p := funext fold
  rw [low, List.takeWhile_map, same, low]

theorem dropWhile_low {p : Char → Bool} (fold : ∀ c, p c.toLower = p c) (s : List Char) :
    (low s).dropWhile p = low (s.dropWhile p) := by
  have same : p ∘ Char.toLower = p := funext fold
  rw [low, List.dropWhile_map, same, low]

theorem reverse_low (s : List Char) : (low s).reverse = low s.reverse := by
  simp [low]

theorem trimList_low (s : List Char) : Text.trimList (low s) = low (Text.trimList s) := by
  simp only [Text.trimList, Text.dropTail, Text.dropLead, dropWhile_low isBlank_toLower,
    reverse_low]

theorem asciiLower_eq (s : String) : Text.asciiLower s = String.ofList (low s.toList) :=
  rfl

theorem isEmpty_asciiLower (s : String) : (Text.asciiLower s).isEmpty = s.isEmpty := by
  rw [Bool.eq_iff_iff, String.isEmpty_iff, String.isEmpty_iff, ← String.toList_inj,
    ← String.toList_inj, Text.toList_asciiLower]
  simp

/-- Blanks are cut off in either case. -/
theorem asciiLower_trim (s : String) :
    Text.asciiLower (Text.trim s) = Text.trim (Text.asciiLower s) := by
  simp only [asciiLower_eq, Text.trim, String.toList_ofList, trimList_low]

/-! ## Media types -/

theorem afterQuote_low (s : List Char) : afterQuote (low s) = (afterQuote s).map low := by
  induction s with
  | nil => rfl
  | cons c rest ih =>
    simp only [low_cons, afterQuote, beq_iff_eq, sign_iff (x := ';') (by decide),
      sign_iff (x := ' ') (by decide), ih]
    split
    · rfl
    · split <;> rfl

theorem takeQuoted_go_low (value s : List Char) :
    takeQuoted.go (low value) (low s) = (takeQuoted.go value s).map (Prod.map low low) := by
  induction s generalizing value with
  | nil => rfl
  | cons c rest ih =>
    simp only [low_cons, takeQuoted.go, beq_iff_eq, sign_iff (x := '"') (by decide),
      isQuotable_toLower, reverse_low]
    split
    · rfl
    · split
      · exact ih (c :: value)
      · rfl

theorem takeQuoted_low (s : List Char) :
    takeQuoted (low s) = (takeQuoted s).map (Prod.map low low) := by
  cases s with
  | nil => rfl
  | cons c rest =>
    simp only [low_cons, takeQuoted, isQuotable_toLower]
    split
    · exact takeQuoted_go_low [c] rest
    · rfl

/-- A parameter in lower case. -/
def lowParam (p : RawParam) : RawParam :=
  ⟨p.nameAt, low p.name, p.valueAt, low p.value⟩

/-- What follows the value of a parameter that is not quoted. -/
def afterValue (offset : Nat) (name : List Char) (valueAt : Nat) (value : List Char) :
    List Char → Option (RawParam × List Char)
  | [] => some (⟨offset, name, valueAt, value⟩, [])
  | ';' :: after => if value.isEmpty then none else some (⟨offset, name, valueAt, value⟩, after)
  | _ => none

theorem afterValue_low (offset : Nat) (name : List Char) (valueAt : Nat) (value tail : List Char) :
    afterValue offset (low name) valueAt (low value) (low tail) =
      (afterValue offset name valueAt value tail).map (Prod.map lowParam low) := by
  cases tail with
  | nil => rfl
  | cons c after =>
    by_cases semicolon : c = ';'
    · subst semicolon
      cases value <;> rfl
    · have kept : c.toLower ≠ ';' := other_sign (by decide) semicolon
      simp [afterValue, semicolon, kept]

/-- What follows the name of a parameter and its equals sign. -/
def takeValue (offset : Nat) (name rest : List Char) : Option (RawParam × List Char) :=
  let at' := offset + name.length + 1
  match rest with
  | '"' :: quoted =>
    match takeQuoted quoted with
    | some (value, tail) =>
      (afterQuote tail).map fun after => (⟨offset, name, at' + 1, value⟩, after)
    | none => none
  | _ =>
    let value := rest.takeWhile isTokenChar
    afterValue offset name at' value (rest.drop value.length)

theorem takeParam_eq (offset : Nat) (s : List Char) :
    takeParam offset s =
      match s.drop (s.takeWhile isTokenChar).length with
      | '=' :: rest =>
        if (s.takeWhile isTokenChar).isEmpty then none
        else takeValue offset (s.takeWhile isTokenChar) rest
      | _ => none :=
  rfl

/-- A value that no quote opens. -/
theorem takeValue_plain {rest : List Char} (plain : rest.head? ≠ some '"') (offset : Nat)
    (name : List Char) :
    takeValue offset name rest =
      afterValue offset name (offset + name.length + 1) (rest.takeWhile isTokenChar)
        (rest.drop (rest.takeWhile isTokenChar).length) := by
  unfold takeValue
  split
  · exact absurd rfl plain
  · rfl

theorem takeValue_low (offset : Nat) (name rest : List Char) :
    takeValue offset (low name) (low rest) =
      (takeValue offset name rest).map (Prod.map lowParam low) := by
  by_cases quote : rest.head? = some '"'
  · obtain ⟨quoted, rfl⟩ := List.head?_eq_some_iff.mp quote
    have lower : low ('"' :: quoted) = '"' :: low quoted := rfl
    simp only [takeValue, lower, takeQuoted_low, length_low]
    cases takeQuoted quoted with
    | none => rfl
    | some taken =>
      simp only [Option.map_some, Prod.map, afterQuote_low, Option.map_map]
      rfl
  · have kept : (low rest).head? ≠ some '"' := by
      cases rest with
      | nil => exact nofun
      | cons c rest => simpa [sign_iff (x := '"') (by decide)] using quote
    rw [takeValue_plain quote, takeValue_plain kept, takeWhile_low isTokenChar_toLower, length_low,
      length_low, drop_low, afterValue_low]

theorem takeParam_low (offset : Nat) (s : List Char) :
    takeParam offset (low s) = (takeParam offset s).map (Prod.map lowParam low) := by
  simp only [takeParam_eq, takeWhile_low isTokenChar_toLower, length_low, drop_low]
  generalize s.takeWhile isTokenChar = name
  generalize s.drop name.length = tail
  cases tail with
  | nil => rfl
  | cons c rest =>
    by_cases equals : c = '='
    · subst equals
      change (if (low name).isEmpty then none else takeValue offset (low name) (low rest)) = _
      rw [isEmpty_low, takeValue_low]
      cases name.isEmpty <;> rfl
    · have kept : c.toLower ≠ '=' := other_sign (by decide) equals
      simp [equals, kept]

/-- Where no blank is skipped a parameter is read. -/
theorem takeParams_cons {c : Char} (other : c ≠ ' ') (fuel offset : Nat) (rest : List Char) :
    takeParams (fuel + 1) offset (c :: rest) =
      match takeParam offset (c :: rest) with
      | some (p, after) =>
        (takeParams fuel (offset + ((c :: rest).length - after.length)) after).map (p :: ·)
      | none => none := by
  have begun : c :: rest ≠ [] := List.cons_ne_nil c rest
  have unblank (tail : List Char) : c :: rest ≠ ' ' :: tail :=
    fun same => other (List.cons.inj same).1
  exact takeParams.eq_4 offset (c :: rest) fuel begun unblank

theorem takeParams_low (fuel offset : Nat) (s : List Char) :
    takeParams fuel offset (low s) = (takeParams fuel offset s).map (List.map lowParam) := by
  induction fuel generalizing offset s with
  | zero => cases s <;> rfl
  | succ fuel ih =>
    cases s with
    | nil => rfl
    | cons c rest =>
      by_cases blank : c = ' '
      · subst blank
        exact ih (offset + 1) rest
      · have kept : c.toLower ≠ ' ' := other_sign (by decide) blank
        have lower := takeParam_low offset (c :: rest)
        rw [low_cons] at lower ⊢
        rw [takeParams_cons kept, takeParams_cons blank, lower]
        cases takeParam offset (c :: rest) with
        | none => rfl
        | some taken =>
          obtain ⟨p, after⟩ := taken
          simp only [Option.map_some, Prod.map, List.length_cons, length_low, ih, Option.map_map]
          rfl

/-- A parameter as a named value. -/
def plain (p : RawParam) : String × String :=
  let name := low p.name
  (String.ofList name, String.ofList (if name == "charset".toList then low p.value else p.value))

/-- The first charset among named values. -/
def charsetIn (params : List (String × String)) : Option String :=
  (params.find? (·.1 == "charset")).map Prod.snd

theorem charsetIn_cons (p : RawParam) (rest : List (String × String)) :
    charsetIn (plain p :: rest) =
      if low p.name = "charset".toList then some (String.ofList (low p.value))
      else charsetIn rest := by
  by_cases charset : low p.name = "charset".toList
  · rw [if_pos charset]
    simp only [charsetIn, plain, List.find?_cons, charset, beq_self_eq_true, if_true,
      String.ofList_toList, Option.map_some]
  · have other : String.ofList (low p.name) ≠ "charset" := by
      intro same
      exact charset (by rw [← same, String.toList_ofList])
    rw [if_neg charset]
    simp only [charsetIn, plain, List.find?_cons, beq_eq_false_iff_ne.mpr other]

theorem charsetIn_plain_low (raw : List RawParam) :
    charsetIn ((raw.map lowParam).map plain) = charsetIn (raw.map plain) := by
  induction raw with
  | nil => rfl
  | cons p rest ih => simp only [List.map_cons, charsetIn_cons, lowParam, low_low, ih]

theorem charsetIn_settle_low (whole : List Char) (semicolon : Nat) (raw : List RawParam) :
    charsetIn (settle (low whole) semicolon (raw.map lowParam)) =
      charsetIn (settle whole semicolon raw) := by
  cases raw with
  | nil => rfl
  | cons p rest =>
    have declares : declaresUtf8 semicolon (lowParam p) = declaresUtf8 semicolon p := by
      simp only [declaresUtf8, lowParam, map_toLower, low_low]
    have others := charsetIn_plain_low (p :: rest)
    simp only [settle, List.map_cons, declares]
    cases declaresUtf8 semicolon p with
    | false => exact others
    | true =>
      cases rest with
      | nil => rfl
      | cons q rest =>
        simp only [charsetIn, drop_low, take_low, map_toLower, low_low]
        rfl

/-- The parameters that follow the slash of a media type. -/
def paramsAfter (whole top rest : List Char) : Option (List (String × String)) :=
  let sub := rest.takeWhile isTokenChar
  let semicolon := top.length + 1 + sub.length
  match rest.drop sub.length with
  | [] => some []
  | ';' :: tail =>
    if sub.isEmpty then none
    else (takeParams (tail.length + 1) (semicolon + 1) tail).map (settle whole semicolon)
  | _ => none

/-- The parameters of a media type. -/
def paramsOf (s : List Char) : Option (List (String × String)) :=
  let top := s.takeWhile isTokenChar
  match s.drop top.length with
  | '/' :: rest => if top.isEmpty then none else paramsAfter s top rest
  | _ => none

theorem paramsAfter_low (whole top rest : List Char) :
    (paramsAfter (low whole) (low top) (low rest)).bind charsetIn =
      (paramsAfter whole top rest).bind charsetIn := by
  simp only [paramsAfter, takeWhile_low isTokenChar_toLower, length_low, drop_low]
  generalize rest.takeWhile isTokenChar = sub
  generalize rest.drop sub.length = tail
  cases tail with
  | nil => rfl
  | cons c tail =>
    by_cases semicolon : c = ';'
    · subst semicolon
      change (if (low sub).isEmpty then none
        else (takeParams ((low tail).length + 1) _ (low tail)).map (settle (low whole) _)).bind
          charsetIn = _
      rw [isEmpty_low, takeParams_low, length_low]
      cases sub.isEmpty with
      | true => rfl
      | false =>
        cases read : takeParams (tail.length + 1) (top.length + 1 + sub.length + 1) tail with
        | none => simp [read]
        | some raw => simp [read, charsetIn_settle_low]
    · have kept : c.toLower ≠ ';' := other_sign (by decide) semicolon
      simp [semicolon, kept]

theorem paramsOf_low (s : List Char) :
    (paramsOf (low s)).bind charsetIn = (paramsOf s).bind charsetIn := by
  simp only [paramsOf, takeWhile_low isTokenChar_toLower, length_low, drop_low]
  generalize s.takeWhile isTokenChar = top
  generalize s.drop top.length = tail
  cases tail with
  | nil => rfl
  | cons c rest =>
    by_cases slash : c = '/'
    · subst slash
      change (if (low top).isEmpty then none else paramsAfter (low s) (low top) (low rest)).bind
        charsetIn = _
      rw [isEmpty_low]
      cases top.isEmpty with
      | true => rfl
      | false => exact paramsAfter_low s top rest
    · have kept : c.toLower ≠ '/' := other_sign (by decide) slash
      simp [slash, kept]

/-- The parameters are read in this way. -/
theorem parse_params (text : String) :
    (parse? text).map MediaType.params =
      if text = "*/*" then some [] else paramsOf text.toList := by
  unfold parse? paramsOf paramsAfter
  by_cases every : text = "*/*"
  · rw [if_pos every, every]
    rfl
  · rw [if_neg every, if_neg (mt beq_iff_eq.mp every)]
    dsimp only
    generalize text.toList = s
    generalize s.takeWhile isTokenChar = top
    generalize s.drop top.length = tail
    cases tail with
    | nil => rfl
    | cons c rest =>
      by_cases slash : c = '/'
      · subst slash
        cases top.isEmpty with
        | true => rfl
        | false =>
          simp only [Bool.false_eq_true, if_false]
          generalize rest.takeWhile isTokenChar = sub
          generalize rest.drop sub.length = tail
          cases tail with
          | nil => rfl
          | cons c tail =>
            by_cases semicolon : c = ';'
            · subst semicolon
              cases sub.isEmpty with
              | true => rfl
              | false =>
                simp only [Bool.false_eq_true, if_false, Option.map_map]
                rfl
            · simp [semicolon]
      · simp [slash]

/-- The charset that a media type declares does not depend on letter case. -/
theorem param_charset_low (text : String) :
    (parse? (Text.asciiLower text)).bind (·.param? "charset") =
      (parse? text).bind (·.param? "charset") := by
  have params (text : String) : (parse? text).bind (·.param? "charset") =
      ((parse? text).map MediaType.params).bind charsetIn := by
    rw [Option.bind_map]
    rfl
  have every : Text.asciiLower text = "*/*" ↔ text = "*/*" := by
    rw [← String.toList_inj, Text.toList_asciiLower, ← String.toList_inj]
    exact low_signs (by decide) text.toList
  rw [params, params, parse_params, parse_params, Text.toList_asciiLower]
  by_cases star : text = "*/*"
  · rw [if_pos star, if_pos (every.mpr star)]
  · rw [if_neg star, if_neg (mt every.mp star)]
    exact paramsOf_low text.toList

end Wirelog.TypeSpelling
