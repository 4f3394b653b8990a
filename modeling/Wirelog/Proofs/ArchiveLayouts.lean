import Mathlib.Logic.Relation
import Wirelog.Proofs.ArchiveFiles
import Wirelog.Proofs.ArchiveShapes

/-! Archive files with other layouts and with foreign data. What a file holds depends on its records
alone: not on the order in which a record has its members, not on members that the record does not
define, and not on blanks and spellings. -/
namespace Wirelog.ArchiveLayouts
open Archive Json JsonGrammar JsonParsing JsonText ArchiveFiles ArchiveShapes
open Bytes (fromUTF8_toUTF8)

/-! ## Edits -/

/-- One edit of a value that stands in a part of a record. It is made to an object that stands for a
record, anywhere in the value: its members are put in another order, or it gets a member with a name
that the record does not define. -/
inductive Edit : Slot → Json → Json → Prop where
  | permute {k : Kind} {ms ms' : List (Spelling × Json)} (perm : ms.Perm ms') :
      Edit (.one k) (.obj ms) (.obj ms')
  | add {k : Kind} (before after : List (Spelling × Json)) {name : String}
      (unknown : name ∉ k.names) {x : Json} (worded : Worded x) :
      Edit (.one k) (.obj (before ++ after)) (.obj (before ++ (some name, x) :: after))
  | member {k : Kind} (before after : List (Spelling × Json)) {name : String} {slot : Slot}
      (defined : (name, slot) ∈ k.parts) {x x' : Json} (edit : Edit slot x x') :
      Edit (.one k) (.obj (before ++ (some name, x) :: after))
        (.obj (before ++ (some name, x') :: after))
  | place {k : Kind} (before after : List Json) {slot : Slot}
      (place : k.slots[before.length]? = some slot) {x x' : Json} (edit : Edit slot x x') :
      Edit (.one k) (.arr (before ++ x :: after)) (.arr (before ++ x' :: after))
  | item {k : Kind} (before after : List Json) {x x' : Json} (edit : Edit (.one k) x x') :
      Edit (.many k) (.arr (before ++ x :: after)) (.arr (before ++ x' :: after))

/-- Any number of edits of a document. -/
def Edited : Json → Json → Prop :=
  Relation.ReflTransGen (Edit (.one .document))

theorem edit_proper {slot : Slot} {j j' : Json} (edit : Edit slot j j') :
    j ≠ .null ∧ j' ≠ .null := by
  cases edit <;> exact ⟨nofun, nofun⟩

/-- An edit makes no difference to what is read. -/
theorem edit_alike {slot : Slot} {j j' : Json} (edit : Edit slot j j') : slot.Alike j j' := by
  induction edit with
  | permute perm => exact permuted_same _ perm
  | add before after unknown _ => exact added_same before after _ unknown _
  | member before after defined edit alike =>
    obtain ⟨proper, proper'⟩ := edit_proper edit
    exact replaced_same before after _ defined (.alike proper proper' alike)
  | place before after place edit alike =>
    obtain ⟨proper, proper'⟩ := edit_proper edit
    exact placed_same place (.alike proper proper' alike)
  | item before after _ alike => exact item_same alike before after

theorem worded_arr {xs : List Json} : Worded (.arr xs) ↔ ∀ x ∈ xs, Worded x :=
  ⟨fun | .arr parts => parts, .arr⟩

theorem worded_obj {ms : List (Spelling × Json)} : Worded (.obj ms) ↔ ∀ m ∈ ms, Worded m.2 :=
  ⟨fun | .obj parts => parts, .obj⟩

theorem edit_worded {slot : Slot} {j j' : Json} (edit : Edit slot j j') (worded : Worded j) :
    Worded j' := by
  induction edit with
  | permute perm =>
    rw [worded_obj] at worded ⊢
    exact fun m member => worded m (perm.mem_iff.mpr member)
  | add before after _ added =>
    rw [worded_obj, List.forall_mem_append] at worded ⊢
    exact ⟨worded.1, List.forall_mem_cons.mpr ⟨added, worded.2⟩⟩
  | member before after _ _ ih =>
    rw [worded_obj, List.forall_mem_append, List.forall_mem_cons] at worded ⊢
    exact ⟨worded.1, ih worded.2.1, worded.2.2⟩
  | place before after _ _ ih | item before after _ ih =>
    rw [worded_arr, List.forall_mem_append, List.forall_mem_cons] at worded ⊢
    exact ⟨worded.1, ih worded.2.1, worded.2.2⟩

theorem edited_alike {j j' : Json} (edited : Edited j j') :
    Log.ofDocument? j = Log.ofDocument? j' := by
  induction edited with
  | refl => rfl
  | tail _ edit ih => exact ih.trans (edit_alike edit)

theorem edited_worded {j j' : Json} (edited : Edited j j') (worded : Worded j) : Worded j' := by
  induction edited with
  | refl => exact worded
  | tail _ edit ih => exact edit_worded edit ih

/-! ## Files -/

/-- A file is loaded by the value that its text is one of. -/
theorem loadFile_iff {text : String} {log : Log} : Log.loadFile text.toUTF8 = .ok log ↔
    ∃ j, Document text.toList j ∧ Log.ofDocument? j = some log := by
  have loads : Log.loadFile text.toUTF8 = .ok log ↔ Log.load? text = some log := by
    simp only [Log.loadFile, fromUTF8_toUTF8]
    cases Log.load? text <;> simp
  simp only [loads, Log.load?, Option.bind_eq_some_iff, parse_iff]

theorem text_of_loadFile {octets : ByteArray} {log : Log} (loaded : Log.loadFile octets = .ok log) :
    ∃ text : String, octets = text.toUTF8 := by
  unfold Log.loadFile at loaded
  split at loaded
  case h_1 => cases loaded
  case h_2 text read =>
    refine ⟨text, ?_⟩
    unfold String.fromUTF8? at read
    split at read
    · cases read
      rfl
    · cases read

/-- Layout and foreign data are ignored. A file that is loaded is a text of one value. Put the
members of any objects in it that stand for records in another order, and give such objects members
with names that their records do not define and with any values, nested to any depth: the result has
a text, and every text of it is loaded as the same log. -/
theorem layout_and_foreign_data_are_ignored {octets : ByteArray} {log : Log}
    (loaded : Log.loadFile octets = .ok log) :
    ∃ (text : String) (j : Json), octets = text.toUTF8 ∧ (∀ i, Document text.toList i ↔ i = j) ∧
      ∀ j', Edited j j' → (∃ text' : String, Document text'.toList j') ∧
        ∀ text' : String, Document text'.toList j' → Log.loadFile text'.toUTF8 = .ok log := by
  obtain ⟨text, rfl⟩ := text_of_loadFile loaded
  obtain ⟨j, document, read⟩ := loadFile_iff.mp loaded
  refine ⟨text, j, rfl, fun i => ?_, fun j' edited => ⟨?_, fun text' document' => ?_⟩⟩
  · rw [← parse_iff, parse_iff.mpr document, Option.some_inj]
    exact eq_comm
  · exact ⟨_, document_render (edited_worded edited (worded_of_document document)) .compact⟩
  · exact loadFile_iff.mpr ⟨j', document', (edited_alike edited).symm.trans read⟩

/-- A program whose members come in another order and with one more that no program has. -/
theorem foreign_member_of_program_is_ignored :
    let log : Log := { creator := { name := "a", version := "1" } }
    let file := "\x7b\"log\":\x7b\"creator\":\x7b\"name\":\"a\",\"version\":\"1\"\x7d\x7d\x7d"
    let other :=
      "\x7b\"log\": \x7b\"creator\":\x7b\"_x\":[null],\"version\":\"1\", \"name\":\"a\"\x7d\x7d\x7d\n"
    Log.loadFile file.toUTF8 = .ok log ∧ Log.loadFile other.toUTF8 = .ok log := by
  intro log file other
  let name := member "name" (.text "a")
  let version := member "version" (.text "1")
  let foreign := member "_x" (.arr [.null])
  let document (program : Json) := Json.obj [member "log" (.obj [member "creator" program])]
  have tree : Json.parse? file = some (document (.obj [name, version])) := by
    simp only [file, Json.parse?, String.reduceToList]
    rfl
  have otherTree : Json.parse? other = some (document (.obj [foreign, version, name])) := by
    simp only [other, Json.parse?, String.reduceToList]
    rfl
  have loaded : Log.loadFile file.toUTF8 = .ok log := by
    refine loadFile_iff.mpr ⟨_, parse_iff.mp tree, ?_⟩
    simp [document, name, version, Log.ofDocument?, Log.ofJson?, Program.ofJson?, partsOf, memberOf,
      member, required, orElse, Archive.optional, readText, Json.text, log]
  have inLog : ("creator", .one .program) ∈ Kind.log.parts := by simp [Kind.parts]
  have inProgram {p p' : Json} (edit : Edit (.one .program) p p') :
      Edit (.one .document) (document p) (document p') :=
    .member [] [] List.mem_cons_self (.member [] [] inLog edit)
  have permuted : Edit (.one .program) (.obj [name, version]) (.obj [version, name]) :=
    .permute (.swap version name [])
  have added : Edit (.one .program) (.obj [version, name]) (.obj [foreign, version, name]) :=
    .add [] _ (by simp [Kind.names, Kind.parts]) (.arr (List.forall_mem_singleton.mpr .null))
  have edited : Edited (document (.obj [name, version])) (document (.obj [foreign, version, name])) :=
    .tail (.single (inProgram permuted)) (inProgram added)
  obtain ⟨text, j, same, one, loads⟩ := layout_and_foreign_data_are_ignored loaded
  obtain rfl := String.toByteArray_inj.mp same
  obtain rfl := (one _).mp (parse_iff.mp tree)
  exact ⟨loaded, (loads _ edited).2 other (parse_iff.mp otherTree)⟩

end Wirelog.ArchiveLayouts
