import Mathlib.Data.List.Basic
import Wirelog.Archive.Document

/-! Documents narrowed to some of their pages. What stays of an entry hangs on the wanted references
and on the pages that are there, and in a document from elsewhere the two need not fit: entries name
pages that are missing, pages share a name, entries name none. So what is left is told by what the
document says of each page and each entry, and narrowing again asks the same of what is left. -/
namespace Wirelog.NarrowedPages
open Archive

/-! ## Parts of a list -/

/-- A part of a list: the elements that stay do so in their order and as often as they were there,
and there are no others. -/
structure Keeps {α : Type} [DecidableEq α] (stays : α → Prop) (whole part : List α) : Prop where
  order : part.Sublist whole
  kept : ∀ a, stays a → part.count a = whole.count a
  others : ∀ a, ¬stays a → a ∉ part

section Parts
variable {α : Type} [DecidableEq α] {stays also : α → Prop} {whole part less : List α}

theorem keeps_filter (whole : List α) {test : α → Bool} (tests : ∀ a, test a = true ↔ stays a) :
    Keeps stays whole (whole.filter test) where
  order := List.filter_sublist
  kept a right := List.count_filter ((tests a).mpr right)
  others a wrong member := wrong ((tests a).mp (List.mem_filter.mp member).2)

/-- The order and the numbers of copies leave one list only. -/
theorem Keeps.eq_filter (keeps : Keeps stays whole part) {test : α → Bool}
    (tests : ∀ a, test a = true ↔ stays a) : part = whole.filter test := by
  have right (a : α) (member : a ∈ part) : test a = true :=
    (tests a).mpr (Classical.not_not.mp fun wrong => keeps.others a wrong member)
  have order : part.Sublist (whole.filter test) := by
    have filtered := keeps.order.filter test
    rwa [List.filter_eq_self.mpr right] at filtered
  have copies : part.Perm (whole.filter test) := by
    refine List.perm_iff_count.mpr fun a => ?_
    by_cases wanted : stays a
    · rw [keeps.kept a wanted, List.count_filter ((tests a).mpr wanted)]
    · have none : a ∉ whole.filter test := (keeps_filter whole tests).others a wanted
      rw [List.count_eq_zero.mpr (keeps.others a wanted), List.count_eq_zero.mpr none]
  exact order.eq_of_length copies.length_eq

theorem Keeps.congr (keeps : Keeps stays whole part) (same : ∀ a ∈ whole, stays a ↔ also a) :
    Keeps also whole part where
  order := keeps.order
  kept a right := by
    by_cases member : a ∈ whole
    · exact keeps.kept a ((same a member).mpr right)
    · rw [List.count_eq_zero.mpr member,
        List.count_eq_zero.mpr fun there => member (keeps.order.subset there)]
  others a wrong member :=
    keeps.others a (fun right => wrong ((same a (keeps.order.subset member)).mp right)) member

/-- A part of a part is what stays both times. -/
theorem Keeps.trans (first : Keeps stays whole part) (second : Keeps also part less) :
    Keeps (fun a => stays a ∧ also a) whole less where
  order := second.order.trans first.order
  kept a right := (second.kept a right.2).trans (first.kept a right.1)
  others a wrong member := by
    by_cases right : stays a
    · exact second.others a (fun too => wrong ⟨right, too⟩) member
    · exact first.others a right (second.order.subset member)

end Parts

/-! ## Narrowing -/

/-- An entry names a page of a document that is wanted. -/
def NamesWanted (pages : List Page) (refs : List String) (e : Entry) : Prop :=
  ∃ p ∈ pages, p.id ∈ refs ∧ e.pageref = some p.id

/-- What is left of a document when it is narrowed to some pages. -/
structure Narrowed (log : Log) (refs : List String) (left : Log) : Prop where
  /-- The wanted pages stay. -/
  pages : Keeps (fun p => p.id ∈ refs) log.pages left.pages
  /-- The entries that name one of them stay. -/
  entries : Keeps (NamesWanted log.pages refs) log.entries left.entries
  /-- No entry names a page that is not there. -/
  named : ∀ e ∈ left.entries, ∃ p ∈ left.pages, e.pageref = some p.id
  version : left.version = log.version
  creator : left.creator = log.creator
  browser : left.browser = log.browser
  comment : left.comment = log.comment

variable {log left : Log} {refs : List String}

/-- The test for entries looks at the pages that are left, which comes to the same as looking at
those of the whole document. -/
theorem test_entry (pages : List Page) (refs : List String) (e : Entry) :
    (match e.pageref with
      | some ref => refs.contains ref && (pages.filter fun p => refs.contains p.id).any (·.id == ref)
      | none => false) = true ↔ NamesWanted pages refs e := by
  unfold NamesWanted
  cases e.pageref with
  | none => simp
  | some ref =>
    simp only [Bool.and_eq_true, List.contains_iff_mem, List.any_filter, List.any_eq_true,
      beq_iff_eq, Option.some.injEq]
    constructor
    · rintro ⟨-, p, page, wanted, rfl⟩
      exact ⟨p, page, wanted, rfl⟩
    · rintro ⟨p, page, wanted, rfl⟩
      exact ⟨wanted, p, page, wanted, rfl⟩

theorem narrowed_onPages (log : Log) (refs : List String) : Narrowed log refs (log.onPages refs) := by
  have pages : Keeps (fun p => p.id ∈ refs) log.pages (log.onPages refs).pages :=
    keeps_filter log.pages fun p => List.contains_iff_mem
  have entries : Keeps (NamesWanted log.pages refs) log.entries (log.onPages refs).entries :=
    keeps_filter log.entries (test_entry log.pages refs)
  refine ⟨pages, entries, fun e member => ?named, rfl, rfl, rfl, rfl⟩
  case named =>
    obtain ⟨p, page, wanted, named⟩ :=
      Classical.not_not.mp fun wrong => entries.others e wrong member
    exact ⟨p, List.mem_filter.mpr ⟨page, List.contains_iff_mem.mpr wanted⟩, named⟩

/-- There is one way to narrow a document. -/
theorem narrowed_iff : Narrowed log refs left ↔ left = log.onPages refs := by
  constructor
  case mp =>
    intro narrowed
    have pages : left.pages = (log.onPages refs).pages :=
      narrowed.pages.eq_filter fun p => List.contains_iff_mem
    have entries : left.entries = (log.onPages refs).entries :=
      narrowed.entries.eq_filter (test_entry log.pages refs)
    obtain ⟨-, -, -, version, creator, browser, comment⟩ := narrowed
    cases left
    simp only at pages entries version creator browser comment
    subst pages entries version creator browser comment
    rfl
  case mpr =>
    rintro rfl
    exact narrowed_onPages log refs

/-- What is narrowed twice is narrowed to what is wanted both times. -/
theorem narrowed_again {first second both : List String} {mid : Log}
    (narrowed : Narrowed log first mid) (again : Narrowed mid second left)
    (shared : ∀ ref, ref ∈ both ↔ ref ∈ first ∧ ref ∈ second) : Narrowed log both left where
  pages := (narrowed.pages.trans again.pages).congr fun p _ => (shared p.id).symm
  entries := by
    refine (narrowed.entries.trans again.entries).congr fun e _ => ?_
    constructor
    · rintro ⟨⟨p, page, wanted, named⟩, q, -, too, named'⟩
      have same : p.id = q.id := Option.some.inj (named.symm.trans named')
      exact ⟨p, page, (shared p.id).mpr ⟨wanted, same ▸ too⟩, named⟩
    · rintro ⟨p, page, wanted, named⟩
      obtain ⟨one, two⟩ := (shared p.id).mp wanted
      -- The page is among those that the first narrowing left.
      have count := narrowed.pages.kept p one
      have stays : p ∈ mid.pages := by
        rw [← List.count_pos_iff, count]
        exact List.count_pos_iff.mpr page
      exact ⟨⟨p, page, one, named⟩, p, stays, two, named⟩
  named := again.named
  version := again.version.trans narrowed.version
  creator := again.creator.trans narrowed.creator
  browser := again.browser.trans narrowed.browser
  comment := again.comment.trans narrowed.comment

theorem onPages_onPages (log : Log) {first second both : List String}
    (shared : ∀ ref, ref ∈ both ↔ ref ∈ first ∧ ref ∈ second) :
    (log.onPages first).onPages second = log.onPages both :=
  narrowed_iff.mp
    (narrowed_again (narrowed_onPages log first) (narrowed_onPages _ second) shared)

/-- A row of narrowings is one, to what is wanted every time. -/
theorem onPages_row (log : Log) (first : List String) (rest : List (List String)) :
    rest.foldl Log.onPages (log.onPages first) =
      log.onPages (first.filter fun ref => rest.all (·.contains ref)) := by
  induction rest generalizing first with
  | nil => simp
  | cons second rest ih =>
    have shared (ref : String) : ref ∈ first.filter second.contains ↔ ref ∈ first ∧ ref ∈ second := by
      simp [List.mem_filter]
    rw [List.foldl_cons, onPages_onPages log shared, ih, List.filter_filter]
    simp only [List.all_cons, Bool.and_comm]

/-- Narrowing a document, whatever its entries and pages are called, leaves exactly the wanted
pages and the entries that name one of them, in their order and number, under an unchanged head; so
narrowing it again narrows it to the references wanted both times. -/
theorem narrowing_composes (log : Log) :
    (∀ refs left, left = log.onPages refs ↔ Narrowed log refs left) ∧
    (∀ first second both : List String, (∀ ref, ref ∈ both ↔ ref ∈ first ∧ ref ∈ second) →
      (log.onPages first).onPages second = log.onPages both) ∧
    ∀ (first : List String) (rest : List (List String)),
      rest.foldl Log.onPages (log.onPages first) =
        log.onPages (first.filter fun ref => rest.all (·.contains ref)) :=
  ⟨fun _ _ => narrowed_iff.symm, fun _ _ _ shared => onPages_onPages log shared, onPages_row log⟩

/-- A document with two pages of one name and with entries that name another page, a missing one and
none, narrowed to that name and the missing one and then to that name alone. -/
theorem narrowed_stray_entries :
    let page (id title : String) : Page := { id, started := .epoch, title }
    let entry (pageref : Option String) : Entry :=
      { pageref, started := .epoch, request := { method := "GET", url := "http://h/" } }
    let log : Log :=
      { pages := [page "a" "1", page "b" "2", page "a" "3"]
        entries := [entry "a", entry "c", entry none, entry "b", entry "a"] }
    let narrowed := (log.onPages ["c", "a"]).onPages ["a"]
    (∀ ref, ref ∈ ["a"] ↔ ref ∈ ["c", "a"] ∧ ref ∈ ["a"]) ∧ narrowed = log.onPages ["a"] ∧
      narrowed.pages = [page "a" "1", page "a" "3"] ∧
      narrowed.entries = [entry "a", entry "a"] := by
  intro page entry log narrowed
  have shared (ref : String) : ref ∈ ["a"] ↔ ref ∈ ["c", "a"] ∧ ref ∈ ["a"] := by
    simp only [List.mem_cons, List.not_mem_nil, or_false]
    exact ⟨fun here => ⟨.inr here, here⟩, And.right⟩
  have once : narrowed = log.onPages ["a"] := (narrowing_composes log).2.1 _ _ _ shared
  exact ⟨shared, once, by decide, by decide⟩

end Wirelog.NarrowedPages
