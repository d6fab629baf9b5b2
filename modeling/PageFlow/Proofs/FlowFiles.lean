import PageFlow.CommandLine.Targets
import PageFlow.Proofs.Files

/-!
# Flow files over time

A flow file that is kept holds the same flows at all times. The flow that a run
takes from a file is the first of those that a validation looks at, provided
that there are any.
-/

namespace PageFlow

open FileSystem

variable {kept : Place → Prop} {before after : FileSystem}
  {environment : Environment} {path : Path}

theorem FileSystem.find_of_exists? (present : before.exists? path = .ok true) :
    ∃ node, before.find path = .ok node := by
  rw [exists?, look] at present
  cases found : before.find path with
  | ok node => exact ⟨node, rfl⟩
  | error cause => cases cause <;> simp [found, Except.map] at present

theorem FileSystem.Extends.exists? (extended : Extends kept before after)
    (stays : kept (placeOf before.workdir path))
    (present : before.exists? path = .ok true) :
    after.exists? path = .ok true := by
  obtain ⟨node, found⟩ := find_of_exists? present
  rw [FileSystem.exists?, look, extended.find (.inr stays) found]
  rfl

namespace Yaml

theorem documentsFrom_next {fuel : Nat} {first : Bool} {parser next : Parser}
    {root : Nat} {value : Value}
    (read : (Parse.document first).run parser = .ok (some root, next))
    (built : valueOf next.nodes root = .ok value) :
    documentsFrom (fuel + 1) first parser =
      (documentsFrom fuel false next).map (value :: ·) := by
  rw [documentsFrom, read]
  dsimp only
  rw [built]
  cases documentsFrom fuel false next <;> rfl

theorem documentsFrom_end {fuel : Nat} {first : Bool} {parser next : Parser}
    (read : (Parse.document first).run parser = .ok (none, next)) :
    documentsFrom (fuel + 1) first parser = .ok [] := by
  rw [documentsFrom, read]

end Yaml

namespace Flow

theorem readDocuments_of_extends (extended : Extends kept before after)
    (stays : kept (placeOf before.workdir path))
    (present : before.exists? path = .ok true) :
    readDocuments after path = readDocuments before path := by
  obtain ⟨node, found⟩ := find_of_exists? present
  have same : after.read path = before.read path := by
    rw [FileSystem.read, FileSystem.read, extended.find (.inr stays) found,
      found]
  have text : fileText after path = fileText before path := by
    rw [fileText, fileText, same]
  rw [readDocuments, readDocuments, extended.exists? stays present, present,
    text]

theorem load_of_extends (extended : Extends kept before after)
    (stays : kept (placeOf before.workdir path))
    (present : before.exists? path = .ok true) :
    load after environment path = load before environment path := by
  rw [load, load, readDocuments_of_extends extended stays present]

theorem loadAll_of_extends (extended : Extends kept before after)
    (stays : kept (placeOf before.workdir path))
    (present : before.exists? path = .ok true) :
    loadAll after environment path = loadAll before environment path := by
  rw [loadAll, loadAll, readDocuments_of_extends extended stays present]

/-- The first of all flows of a file is the one that is loaded by itself. -/
theorem load_of_loadAll {files : FileSystem} {flow : Flow} {flows : List Flow}
    (loaded : loadAll files environment path = .ok (flow :: flows)) :
    load files environment path = .ok flow := by
  rw [loadAll] at loaded
  rw [load]
  cases documents : readDocuments files path with
  | error fault => simp [documents] at loaded
  | ok values =>
      simp only [documents] at loaded
      cases values with
      | nil => cases loaded
      | cons value values =>
          rw [ofDocuments, documentSource, if_pos rfl] at loaded
          cases first : ofValue environment path.text value with
          | error fault =>
              rw [first] at loaded
              cases loaded
          | ok found =>
              rw [first] at loaded
              cases later : ofDocuments environment path (1 + 1) values with
              | error fault =>
                  simp only [later] at loaded
                  cases loaded
              | ok others =>
                  simp only [later] at loaded
                  cases loaded
                  simp only [first]
                  rfl

theorem exists?_of_loadAll {files : FileSystem} {flows : List Flow}
    (loaded : loadAll files environment path = .ok flows) :
    files.exists? path = .ok true := by
  rw [loadAll] at loaded
  cases documents : readDocuments files path with
  | error fault => simp [documents] at loaded
  | ok values =>
      rw [readDocuments] at documents
      split at documents
      · cases documents
      · cases documents
      · assumption

theorem ne_nil_of_loadAll {files : FileSystem} {flows : List Flow}
    (loaded : loadAll files environment path = .ok flows) : flows ≠ [] := by
  rw [loadAll] at loaded
  split at loaded
  · cases loaded
  · split at loaded
    · cases loaded
    · cases loaded
    · rename_i some _
      cases loaded
      exact some

end Flow

end PageFlow
