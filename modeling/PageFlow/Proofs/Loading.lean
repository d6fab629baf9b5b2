import PageFlow.Proofs.Act
import PageFlow.Proofs.FlowFiles

/-!
# One flow and all flows of a file

A file is loaded in two ways, for its first flow and for all of its flows. Both
read the same documents, and both take the first one from the same source, so
that they can only differ about the later documents.
-/

namespace PageFlow.Flow

variable {files : FileSystem} {environment : Environment} {path : Path}

/-! ## Documents -/

/-- A text writes some documents, null ones included: one JSON document, or a
stream of YAML documents. -/
inductive Writes (path : Path) (text : String) : List Value → Prop where
  | json {document : Json} :
      isJsonFile path → Json.read text = .ok document →
        Writes path text [document.toValue]
  | yaml {documents : List Value} :
      ¬ isJsonFile path → Yaml.documents text = .ok documents →
        Writes path text documents

/-- A file exists and its text writes some documents, null ones included. -/
def HoldsDocuments (files : FileSystem) (path : Path) (documents : List Value) :
    Prop :=
  files.exists? path = .ok true ∧ ∃ text,
    fileText files path = .ok text ∧ Writes path text documents

def present (documents : List Value) : List Value :=
  documents.filter fun value => !(value matches .null)

/-- What is read of a file are its documents that are not null, or the only one
of a JSON file. -/
theorem holdsDocuments_of_readDocuments {values : List Value}
    (read : readDocuments files path = .ok values) :
    ∃ documents, HoldsDocuments files path documents ∧
      (values = present documents ∨ values = [.null]) := by
  rw [readDocuments] at read
  split at read
  · cases read
  · cases read
  · rename_i exists?
    split at read
    · cases read
    · rename_i text reading
      rw [documentsOf] at read
      split at read
      · rename_i json
        split at read
        · rename_i document parsed
          cases read
          refine ⟨_, ⟨exists?, text, reading, .json json parsed⟩, ?_⟩
          cases document.toValue <;> simp [present]
        · cases read
      · rename_i yaml
        split at read
        · rename_i documents parsed
          cases read
          exact ⟨_, ⟨exists?, text, reading, .yaml yaml parsed⟩, .inl rfl⟩
        · cases read

/-! ## Flows of documents -/

/-- A document gives a flow, wherever it comes from. -/
def Gives (environment : Environment) (document : Value) (flow : Flow) : Prop :=
  ∀ source, ofValue environment source document = .ok flow

theorem gives_of_ofValue {source : String} {document : Value} {flow : Flow}
    (read : ofValue environment source document = .ok flow) :
    Gives environment document flow := by
  intro other
  cases document with
  | dict entries =>
      simp only [ofValue, ofEntries] at read ⊢
      split at read
      · cases read
      · rename_i finite
        rw [if_neg finite]
        split at read
        · cases read
        · split at read
          · exact read
          · cases read
  | _ => cases read

theorem forall₂_of_ofDocuments {number : Nat} {values : List Value}
    {flows : List Flow}
    (read : ofDocuments environment path number values = .ok flows) :
    List.Forall₂ (Gives environment) values flows := by
  induction values generalizing number flows with
  | nil =>
      cases read
      exact .nil
  | cons value values induction =>
      obtain ⟨flow, first, read⟩ := exists_of_bind_eq_ok read
      obtain ⟨later, rest, read⟩ := exists_of_bind_eq_ok read
      cases read
      exact .cons (gives_of_ofValue first) (induction rest)

theorem exists_of_ofDocuments {number : Nat} {values : List Value}
    {fault : FlowFault}
    (read : ofDocuments environment path number values = .error fault) :
    ∃ earlier faulty rest, values = earlier ++ faulty :: rest ∧
      (∀ document ∈ earlier, ∃ flow, Gives environment document flow) ∧
      ofValue environment (documentSource path (number + earlier.length))
        faulty = .error fault := by
  induction values generalizing number with
  | nil => cases read
  | cons value values induction =>
      rw [ofDocuments] at read
      cases first : ofValue environment (documentSource path number) value with
      | error problem =>
          rw [first] at read
          cases read
          exact ⟨[], value, values, rfl, by simp, first⟩
      | ok flow =>
          rw [first] at read
          cases later : ofDocuments environment path (number + 1) values with
          | ok flows =>
              simp only [later] at read
              cases read
          | error problem =>
              simp only [later] at read
              cases read
              obtain ⟨earlier, faulty, rest, split, valid, invalid⟩ :=
                induction later
              refine ⟨value :: earlier, faulty, rest,
                by rw [split, List.cons_append], ?_, ?_⟩
              · exact List.forall_mem_cons.mpr
                  ⟨⟨flow, gives_of_ofValue first⟩, valid⟩
              · -- The later documents are numbered from one more.
                rw [List.length_cons, ← Nat.add_assoc, Nat.add_right_comm]
                exact invalid

/-! ## Both ways of loading -/

theorem load_of_readDocuments {value : Value} {rest : List Value}
    (reading : readDocuments files path = .ok (value :: rest)) :
    load files environment path =
      (ofValue environment path.text value).mapError .flow := by
  rw [load, reading]

theorem loadAll_of_readDocuments {value : Value} {rest : List Value}
    (reading : readDocuments files path = .ok (value :: rest)) :
    loadAll files environment path =
      (ofDocuments environment path 1 (value :: rest)).mapError .flow := by
  rw [loadAll, reading]
  dsimp only
  cases read : ofDocuments environment path 1 (value :: rest) with
  | error problem => rfl
  | ok flows =>
      cases forall₂_of_ofDocuments read
      rfl

/-- The flow of the only document of a file is loaded in both ways. -/
theorem loads_of_gives {value : Value} {flow : Flow}
    (reading : readDocuments files path = .ok [value])
    (gives : Gives environment value flow) :
    load files environment path = .ok flow ∧ loadAll files environment path =
      .ok [flow] := by
  constructor
  · rw [load_of_readDocuments reading, gives]
    rfl
  · rw [loadAll_of_readDocuments reading, ofDocuments, gives]
    rfl

theorem loadAll_of_load_error {fault : LoadFault}
    (refused : load files environment path = .error fault) :
    loadAll files environment path = .error fault := by
  cases reading : readDocuments files path with
  | error cause =>
      rw [load, reading] at refused
      cases refused
      rw [loadAll, reading]
  | ok values =>
      cases values with
      | nil =>
          rw [load, reading] at refused
          cases refused
          rw [loadAll, reading]
          rfl
      | cons value rest =>
          rw [load_of_readDocuments reading] at refused
          rw [loadAll_of_readDocuments reading, ofDocuments, documentSource,
            if_pos rfl]
          cases first : ofValue environment path.text value with
          | ok flow =>
              rw [first] at refused
              cases refused
          | error problem =>
              rw [first] at refused
              cases refused
              rfl

/-- The documents of a file whose first flow can be loaded begin with the one of
that flow. -/
theorem holdsDocuments_of_load {flow : Flow}
    (loaded : load files environment path = .ok flow) :
    ∃ documents first later, HoldsDocuments files path documents ∧
      present documents = first :: later ∧ Gives environment first flow ∧
      loadAll files environment path =
        (ofDocuments environment path 1 (first :: later)).mapError .flow := by
  cases reading : readDocuments files path with
  | error cause =>
      rw [load, reading] at loaded
      cases loaded
  | ok values =>
      obtain ⟨documents, holds, rfl | rfl⟩ :=
        holdsDocuments_of_readDocuments reading
      · cases split : present documents with
        | nil =>
            rw [load, reading, split] at loaded
            cases loaded
        | cons first later =>
            rw [split] at reading
            rw [load_of_readDocuments reading] at loaded
            cases read : ofValue environment path.text first with
            | error problem =>
                rw [read] at loaded
                cases loaded
            | ok found =>
                rw [read] at loaded
                cases loaded
                exact ⟨documents, first, later, holds, split,
                  gives_of_ofValue read, loadAll_of_readDocuments reading⟩
      · rw [load_of_readDocuments reading] at loaded
        cases loaded

/-- All flows of a file are those of its documents that are not null, in
order. -/
theorem holdsDocuments_of_loadAll {flows : List Flow}
    (loaded : loadAll files environment path = .ok flows) :
    ∃ documents, HoldsDocuments files path documents ∧
      List.Forall₂ (Gives environment) (present documents) flows := by
  obtain ⟨flow, later, rfl⟩ :=
    List.exists_cons_of_ne_nil (ne_nil_of_loadAll loaded)
  obtain ⟨documents, first, rest, holds, split, _, all⟩ :=
    holdsDocuments_of_load (load_of_loadAll loaded)
  rw [all] at loaded
  cases read : ofDocuments environment path 1 (first :: rest) with
  | error problem =>
      rw [read] at loaded
      cases loaded
  | ok flows =>
      rw [read] at loaded
      cases loaded
      exact ⟨documents, holds, split ▸ forall₂_of_ofDocuments read⟩

/-- The two ways of loading agree. If all flows of a file are loaded, there is
one for each document that is not null, in order, and the first one is what is
loaded by itself. If that one cannot be loaded, nothing can, and the fault is
the same. If only the later flows are missing, then the first document is valid,
and the fault is that of the first later one that is not. -/
theorem loaders_agree (files : FileSystem) (environment : Environment)
    (path : Path) :
    (∀ flows, loadAll files environment path = .ok flows →
      (∃ flow later,
        flows = flow :: later ∧ load files environment path = .ok flow) ∧
      ∃ documents, HoldsDocuments files path documents ∧
        List.Forall₂ (Gives environment) (present documents) flows) ∧
    (∀ fault, load files environment path = .error fault →
      loadAll files environment path = .error fault) ∧
    ∀ flow fault, load files environment path = .ok flow →
      loadAll files environment path = .error fault →
      ∃ documents first between faulty rest problem,
        HoldsDocuments files path documents ∧
        present documents = first :: between ++ faulty :: rest ∧
        Gives environment first flow ∧
        (∀ document ∈ between, ∃ other, Gives environment document other) ∧
        ofValue environment (documentSource path (between.length + 2)) faulty =
          .error problem ∧
        fault = .flow problem := by
  refine ⟨fun flows loaded => ?_, fun fault => loadAll_of_load_error,
    fun flow fault loaded refused => ?_⟩
  · obtain ⟨flow, later, rfl⟩ :=
      List.exists_cons_of_ne_nil (ne_nil_of_loadAll loaded)
    exact ⟨⟨flow, later, rfl, load_of_loadAll loaded⟩,
      holdsDocuments_of_loadAll loaded⟩
  · obtain ⟨documents, first, later, holds, split, gives, all⟩ :=
      holdsDocuments_of_load loaded
    rw [all] at refused
    cases read : ofDocuments environment path 1 (first :: later) with
    | ok flows =>
        rw [read] at refused
        cases refused
    | error problem =>
        rw [read] at refused
        cases refused
        obtain ⟨earlier, faulty, rest, same, valid, invalid⟩ :=
          exists_of_ofDocuments read
        cases earlier with
        | nil =>
            -- The faulty document is not the first one, since that one gives a
            -- flow.
            cases same
            rw [gives] at invalid
            cases invalid
        | cons document between =>
            cases same
            exact ⟨documents, first, between, faulty, rest, problem,
              holds, split, gives,
              (List.forall_mem_cons.mp valid).2, by
                rwa [List.length_cons, Nat.add_comm 1] at invalid, rfl⟩

end PageFlow.Flow
