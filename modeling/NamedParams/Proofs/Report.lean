import NamedParams.CommandLine
import NamedParams.Proofs.Construction.Redeclared

/-! What the report in JSON tells about a document of declarations. -/

namespace NamedParams

open Log (Gate)

namespace Json

/-- What is bound under distinct keys is found in the object. -/
theorem get?_ofEntries {entries : List (String × Json)}
    (distinct : Entries.Distinct entries) {key : String} {value : Json}
    (member : (key, value) ∈ entries) : (ofEntries entries).get? key = some value :=
  -- No entry is lost when the object is put in order, as no other one has its key.
  Entries.lookup_eq_some_of_mem (Entries.increasing_sort entries)
    ((Entries.mem_sort distinct).2 member)

variable {care : Care} {fuel depth : Nat} {c d : Cursor} {value : Json}

/-- Items are read into an array. -/
theorem eq_array_of_readItems {items : List Json}
    (read : readItems care fuel depth c items = .ok (value, d)) : ∃ list, value = .array list := by
  -- Induct over the fuel: each round reads one item, and the closing bracket ends the array.
  induction fuel generalizing c items with
  | zero => cases read
  | succ fuel ih =>
    rw [readItems] at read
    split at read
    · cases read
    · cases read
      exact ⟨_, rfl⟩
    · split at read
      · cases read
      · exact ih read

/-- Entries are read into an object whose keys increase. -/
theorem eq_object_of_readEntries {entries : List (String × Json)}
    (read : readEntries care fuel depth c entries = .ok (value, d)) :
    ∃ list, value = .object list ∧ Entries.Increasing list := by
  -- Induct over the fuel: the entries are put in order when the closing brace is read.
  induction fuel generalizing c entries with
  | zero => cases read
  | succ fuel ih =>
    rw [readEntries] at read
    split at read
    · cases read
    · cases read
      exact ⟨_, rfl, Entries.increasing_sort _⟩
    · split at read
      · cases read
      · split at read
        · cases read
        · split at read
          · cases read
          · exact ih read

/-- The keys of an object that is read increase. -/
theorem increasing_of_readValue {entries : List (String × Json)}
    (read : readValue care fuel depth c = .ok (.object entries, d)) :
    Entries.Increasing entries := by
  cases fuel with
  | zero => cases read
  | succ fuel =>
    -- The first character decides what kind of value is read.
    rw [readValue] at read
    split at read
    case h_1 => cases read
    case h_7 =>
      split at read
      · cases read
      · obtain ⟨_, array⟩ := eq_array_of_readItems read
        cases array
    case h_8 =>
      split at read
      · cases read
      · obtain ⟨_, object, increasing⟩ := eq_object_of_readEntries read
        cases object
        exact increasing
    case h_9 =>
      split at read
      · obtain ⟨_, _, number⟩ := bind_eq_ok.1 read
        cases number
      · cases read
    all_goals
      obtain ⟨_, _, simple⟩ := bind_eq_ok.1 read
      cases simple

/-- The keys of a document increase. -/
theorem increasing_of_read {text : String} {entries : List (String × Json)}
    (document : Json.read text = .ok (.object entries)) : Entries.Increasing entries := by
  -- The text is one value, and nothing behind it.
  obtain ⟨⟨value, c⟩, read, rest⟩ := bind_eq_ok.1 document
  obtain ⟨_, _, same⟩ := bind_eq_ok.1 rest
  cases same
  exact increasing_of_readValue read

end Json

namespace Results

/-- The failures among results, under their names. -/
def failed (results : Results) : List (String × Failure) :=
  results.filterMap fun entry =>
    match entry.2 with
    | .ok _ => none
    | .error failure => some (entry.1, failure)

/-- What is reported about a failure. -/
def failureEntry (entry : String × Failure) : Json :=
  Json.ofEntries [
    ("parameter", .string entry.1),
    ("code", .string entry.2.code.text),
    ("message", .string entry.2.message)]

variable {results : Results}

/-- Each failure is counted. -/
theorem failures_eq : results.failures = results.failed.length := by
  -- Induct over the results: each of them is counted and kept alike.
  induction results with
  | nil => rfl
  | cons entry rest ih =>
    obtain ⟨name, result⟩ := entry
    cases result <;> simp_all [failures, failed, isFailure]

/-- Each failure is reported. -/
theorem errors_eq : results.errors = results.failed.map failureEntry := by
  -- Result by result, what is reported is what has failed.
  rw [errors, failed, List.map_filterMap]
  refine List.filterMap_congr fun entry _ => ?_
  cases entry.2 <;> rfl

/-- A name has failed with what it led to. -/
theorem mem_failed {name : String} {failure : Failure} :
    (name, failure) ∈ results.failed ↔ (name, .error failure) ∈ results := by
  rw [failed, List.mem_filterMap]
  -- Only a failure is kept, and it is kept under its name.
  constructor
  · rintro ⟨⟨other, result⟩, member, kept⟩
    cases result with
    | ok p => cases kept
    | error own =>
      cases kept
      exact member
  · intro member
    exact ⟨_, member, rfl⟩

/-- A name is declared again by what it led to. -/
theorem mem_declarations {name : String} {json : Json} :
    (name, json) ∈ results.declarations ↔
      ∃ p, (name, .ok p) ∈ results ∧ json = p.toDeclaration.toJson := by
  rw [declarations, List.mem_filterMap]
  -- Only a parameter is declared again, and its name stays with it.
  constructor
  · rintro ⟨⟨other, result⟩, member, kept⟩
    cases result with
    | ok p =>
      cases kept
      exact ⟨p, member, rfl⟩
    | error own => cases kept
  · rintro ⟨p, member, rfl⟩
    exact ⟨_, member, rfl⟩

/-- The names of failures are in the order of the results. -/
theorem increasing_failed (increasing : Entries.Increasing results) :
    Entries.Increasing results.failed := by
  -- A failure keeps the name of its result.
  refine Entries.increasing_filterMap (fun entry kept same => ?_) increasing
  split at same <;> cases same
  rfl

/-- The names of declarations are in the order of the results. -/
theorem increasing_declarations (increasing : Entries.Increasing results) :
    Entries.Increasing results.declarations := by
  -- A declaration keeps the name of its result.
  refine Entries.increasing_filterMap (fun entry kept same => ?_) increasing
  split at same <;> cases same
  rfl

/-- The report binds its four keys. -/
theorem get?_toJson (results : Results) :
    results.toJson.get? "checked" = some (Json.ofNat results.length) ∧
      results.toJson.get? "failed" = some (Json.ofNat results.failed.length) ∧
      results.toJson.get? "parameters" = some (Json.ofEntries results.declarations) ∧
      results.toJson.get? "errors" = some (.array (results.failed.map failureEntry)) := by
  -- No two of the keys are the same, so none hides another.
  have distinct : Entries.Distinct [
      ("checked", Json.ofNat results.length),
      ("failed", Json.ofNat results.failures),
      ("parameters", Json.ofEntries results.declarations),
      ("errors", .array results.errors)] := by
    simp [Entries.Distinct]
  rw [← failures_eq, ← errors_eq]
  refine ⟨?_, ?_, ?_, ?_⟩ <;> exact Json.get?_ofEntries distinct (by simp)

end Results

/-- What a report tells about a document: how many names it has, what those that build are declared
as, and why each of the others does not build. -/
structure Tells (s : Setting) (gate : Gate) (document : List (String × Json)) (report : Json)
    (built : List (String × Json)) (failed : List (String × Failure)) : Prop where
  checked : report.get? "checked" = some (Json.ofNat document.length)
  failures : report.get? "failed" = some (Json.ofNat failed.length)
  parameters : report.get? "parameters" = some (.object built)
  errors : report.get? "errors" = some (.array (failed.map Results.failureEntry))
  builds : ∀ name json, (name, json) ∈ built ↔ ∃ value p, (name, value) ∈ document ∧
    (s.constructJson gate name value).value = .ok p ∧ json = p.toDeclaration.toJson
  fails : ∀ name failure, (name, failure) ∈ failed ↔ ∃ value, (name, value) ∈ document ∧
    (s.constructJson gate name value).value = .error failure
  built_increasing : Entries.Increasing built
  failed_increasing : Entries.Increasing failed

namespace Setting

variable {s : Setting} {gate : Gate} {document : List (String × Json)}

/-- Every name of a document has the result of its own declaration. -/
theorem value_checkEntries (document : List (String × Json)) :
    (s.checkEntries gate document).value =
      document.map fun entry => (entry.1, (s.constructJson gate entry.1 entry.2).value) := by
  -- Induct over the document: what the entries in front log does not change the result of the next.
  induction document with
  | nil => rfl
  | cons entry rest ih =>
    obtain ⟨name, value⟩ := entry
    simp [checkEntries, ih]

/-- What a document leads to under a name is what the name is declared as there. -/
theorem mem_checkEntries {name : String} {result : Except Failure Parameter} :
    (name, result) ∈ (s.checkEntries gate document).value ↔
      ∃ value, (name, value) ∈ document ∧ (s.constructJson gate name value).value = result := by
  rw [value_checkEntries, List.mem_map]
  -- Each result stands under the name of the declaration it comes from.
  constructor
  · rintro ⟨⟨other, value⟩, member, same⟩
    cases same
    exact ⟨value, member, rfl⟩
  · rintro ⟨value, member, rfl⟩
    exact ⟨(name, value), member, rfl⟩

/-- The report about a document with increasing keys tells about each of its names. -/
theorem checkEntries_tells (s : Setting) (gate : Gate) (increasing : Entries.Increasing document) :
    let results := (s.checkEntries gate document).value
    Tells s gate document results.toJson results.declarations results.failed := by
  intro results
  -- The results have the names of the document, in its order.
  have ordered : Entries.Increasing results := by
    simp only [results, value_checkEntries]
    exact List.pairwise_map.2 increasing
  have count : results.length = document.length := by
    simp only [results, value_checkEntries, List.length_map]
  have built_increasing := Results.increasing_declarations ordered
  obtain ⟨checked, failures, parameters, errors⟩ := Results.get?_toJson results
  refine ⟨count ▸ checked, failures, ?_, errors, fun name json => ?_, fun name failure => ?_,
    built_increasing, Results.increasing_failed ordered⟩
  · -- Names that are in order already stay as they are in the report.
    rw [parameters, Json.ofEntries, Entries.sort_eq_self built_increasing]
  · simp only [results, Results.mem_declarations, mem_checkEntries]
    constructor
    · rintro ⟨p, ⟨value, member, builds⟩, rfl⟩
      exact ⟨value, p, member, builds, rfl⟩
    · rintro ⟨value, p, member, builds, rfl⟩
      exact ⟨p, ⟨value, member, builds⟩, rfl⟩
  · simp only [results, Results.mem_failed, mem_checkEntries]

/-- The report about the declarations in a report tells that all of them build, as they are. -/
theorem checkEntries_tells_again {again : Setting} (gate' : Gate) {report : Json}
    {built : List (String × Json)} {failed : List (String × Failure)}
    (same : s.location = again.location) (tells : Tells s gate document report built failed) :
    Tells again gate' built (again.checkEntries gate' built).value.toJson built [] := by
  -- The report about the declarations in the report tells about these, whatever they lead to.
  have whole := checkEntries_tells again gate' tells.built_increasing
  -- What was built is built again and declared as before.
  have rebuilt : ∀ entry ∈ built, ∃ p,
      (again.constructJson gate' entry.1 entry.2).value = .ok p ∧
        p.toDeclaration.toJson = entry.2 := by
    intro entry member
    obtain ⟨value, p, _, builds, declared⟩ := (tells.builds entry.1 entry.2).1 member
    exact ⟨p, declared ▸ constructJson_toJson same builds, declared.symm⟩
  have no_failure : (again.checkEntries gate' built).value.failed = [] := by
    rw [value_checkEntries, Results.failed, List.filterMap_map, List.filterMap_eq_nil_iff]
    intro entry member
    obtain ⟨p, builds, _⟩ := rebuilt entry member
    simp [builds]
  have unchanged : (again.checkEntries gate' built).value.declarations = built := by
    rw [value_checkEntries, Results.declarations, List.filterMap_map]
    refine (List.filterMap_congr fun entry member => ?_).trans List.filterMap_some
    obtain ⟨p, builds, declared⟩ := rebuilt entry member
    simp [builds, declared]
  simpa only [no_failure, unchanged] using whole

end Setting

namespace CommandLine

/-- A check of a document for programs prints one report. The report tells about each name of the
document, the status is that of a failure exactly if there are failures, and the declarations in the
report lead to a report that tells of no failure and of the same declarations. -/
theorem run_check_json {around : Surroundings} {arguments : List String} {path text : String}
    {location : Location} {document : List (String × Json)}
    (asked : Command.parse arguments = some (.check path location .json))
    (content : around.file path = .ok text) (read : Json.read text = .ok (.object document)) :
    let s : Setting := ⟨location, .ofEnvironment around.environment⟩
    ∃ report built failed, Tells s none document report built failed ∧
      (run around arguments).output = ⟨report.indented 0 ++ "\n", ""⟩ ∧
      ((run around arguments).status ≠ 0 ↔ 0 < failed.length) ∧
      ∀ (again : Setting) (gate : Gate), again.location = location →
        Tells again gate built (again.checkEntries gate built).value.toJson built [] := by
  intro s
  let results := (s.checkEntries none document).value
  -- The keys of a document that is read increase, so the report has its names in order.
  have tells := s.checkEntries_tells none (Json.increasing_of_read read)
  -- Of the ways a run can go, the arguments and the file leave the one that prints a report.
  have outcome : run around arguments =
      ⟨if results.failures = 0 then 0 else 1, ⟨results.toJson.indented 0 ++ "\n", ""⟩⟩ := by
    simp [run, asked, runForPrograms, check, readDeclarations, content, read, Except.map, results,
      s]
  refine ⟨results.toJson, results.declarations, results.failed, tells, ?_, ?_,
    fun again gate same => Setting.checkEntries_tells_again gate same.symm tells⟩
  · rw [outcome]
  · rw [outcome, ← Results.failures_eq]
    rcases Nat.eq_zero_or_pos results.failures with none | some_failure
    · simp [none]
    · simp [Nat.pos_iff_ne_zero.1 some_failure, some_failure]

/-- A document that declares one parameter and one number has one failure. -/
theorem run_check_json_of_number :
    let around : Surroundings :=
      ⟨fun _ => none, fun _ => .ok "\x7b\"a\":\x7b\x7d,\"b\":3\x7d", 0⟩
    let arguments := ["check", "--format=json", "f"]
    Command.parse arguments = some (.check "f" .base .json) ∧
    ∃ report built failed, Tells ⟨.base, .ofEnvironment around.environment⟩ none
        [("a", .object []), ("b", .number (.integer 3 (by decide)))] report built failed ∧
      (run around arguments).output = ⟨report.indented 0 ++ "\n", ""⟩ ∧
      ((run around arguments).status ≠ 0 ↔ 0 < failed.length) ∧
      ∀ (again : Setting) (gate : Gate), again.location = .base →
        Tells again gate built (again.checkEntries gate built).value.toJson built [] := by
  intro around arguments
  have asked : Command.parse arguments = some (.check "f" .base .json) := by decide
  have read : Json.read "\x7b\"a\":\x7b\x7d,\"b\":3\x7d" =
      .ok (.object [("a", .object []), ("b", .number (.integer 3 (by decide)))]) := by
    cbv
  exact ⟨asked, run_check_json asked rfl read⟩

end CommandLine

end NamedParams
