import Mathlib.Data.List.Find
import Mathlib.Data.List.TakeWhile
import Switchboard.Proofs.Config.Fitness

/-!
# The search for settings

A search looks at the paths of a list that lead somewhere, one after the other. It comes to the
first that can be used, and the reasons why the ones before it cannot make up its failures
(`outcome`). So nothing counts that is missing or that stands behind the source, and what is wrong
with a file that is passed over shows in nothing but its own failure (`searching`).
-/

namespace Switchboard.Config

variable {files changed : Files} {environment : Environment} {path : String}
  {paths others before after : List String}

/-- A file that can be used. -/
def usable (files : Files) (environment : Environment) (path : String) : Bool :=
  (loadWith files environment path).1.isOk

/-- The files of a list that are there and are passed over. -/
def passedOver (files : Files) (environment : Environment) (paths : List String) : List String :=
  (paths.filter files.leads).takeWhile fun path => !usable files environment path

/-- What a search comes to, told by what each file comes to. -/
structure Outcome (files : Files) (environment : Environment) (paths : List String)
    (report : Report) : Prop where
  source : report.source = (paths.filter files.leads).find? (usable files environment)
  config_of_source : ∀ path, report.source = some path →
    (loadWith files environment path).1 = .ok report.config
  config_of_none : report.source = none → report.config = (ofEnvironment environment).1
  failures : report.failures.map Except.error =
    (passedOver files environment paths).map fun path => (loadWith files environment path).1
  ignored : report.ignored =
    ((passedOver files environment paths).flatMap fun path =>
        (loadWith files environment path).2) ++
      report.source.elim (ofEnvironment environment).2 fun path =>
        (loadWith files environment path).2

/-! ## One path after the other -/

/-- A path that leads nowhere is skipped without a failure. -/
theorem loadFirst_of_missing (missing : files.leads path = false) (rest : List String) :
    loadFirst files environment (path :: rest) = loadFirst files environment rest := by
  rw [loadFirst, if_neg (by simp [missing])]

/-- The first file that can be used ends the search. -/
theorem loadFirst_of_ok (leads : files.leads path = true) {config : Config}
    {ignored : List Ignored} (used : loadWith files environment path = (.ok config, ignored))
    (rest : List String) :
    loadFirst files environment (path :: rest) =
      { config, source := some path, failures := [], ignored } := by
  rw [loadFirst, if_pos leads, used]

/-- The failure of a file comes before those of the files after it. -/
theorem loadFirst_of_error (leads : files.leads path = true) {error : LoadError}
    {ignored : List Ignored} (failed : loadWith files environment path = (.error error, ignored))
    (rest : List String) :
    loadFirst files environment (path :: rest) =
      { loadFirst files environment rest with
        failures := error :: (loadFirst files environment rest).failures
        ignored := ignored ++ (loadFirst files environment rest).ignored } := by
  rw [loadFirst, if_pos leads, failed]

/-- A search comes to the first file that can be used, and to the failures of those before it. -/
theorem outcome (files : Files) (environment : Environment) (paths : List String) :
    Outcome files environment paths (loadFirst files environment paths) := by
  induction paths with
  | nil => exact ⟨rfl, nofun, fun _ => rfl, rfl, rfl⟩
  | cons path rest ih =>
    cases leads : files.leads path with
    | false =>
      rw [loadFirst_of_missing leads]
      have same : (path :: rest).filter files.leads = rest.filter files.leads := by simp [leads]
      obtain ⟨source, config_of_source, config_of_none, failures, ignored⟩ := ih
      constructor
      case source => rw [same]; exact source
      case config_of_source => exact config_of_source
      case config_of_none => exact config_of_none
      case failures => rw [passedOver, same]; exact failures
      case ignored => rw [passedOver, same]; exact ignored
    | true =>
      have next : (path :: rest).filter files.leads = path :: rest.filter files.leads := by
        simp [leads]
      cases used : loadWith files environment path with
      | mk result lines =>
        cases result with
        | ok config =>
          have usable : usable files environment path = true := by rw [usable, used]; rfl
          have passed : passedOver files environment (path :: rest) = [] := by
            simp [passedOver, next, usable]
          rw [loadFirst_of_ok leads used]
          constructor
          case source => rw [next, List.find?_cons_of_pos usable]
          case config_of_source => rintro _ ⟨⟩; rw [used]
          case config_of_none => nofun
          case failures => rw [passed]; rfl
          case ignored => rw [passed, Option.elim_some, used]; rfl
        | error error =>
          have unusable : Config.usable files environment path = false := by
            rw [Config.usable, used]; rfl
          have passed : passedOver files environment (path :: rest) =
              path :: passedOver files environment rest := by
            simp [passedOver, next, unusable]
          rw [loadFirst_of_error leads used]
          constructor
          case source => rw [next, List.find?_cons_of_neg (by simp [unusable])]; exact ih.source
          case config_of_source => exact ih.config_of_source
          case config_of_none => exact ih.config_of_none
          case failures => rw [passed, List.map_cons, List.map_cons, ih.failures, used]
          case ignored =>
            rw [passed, List.flatMap_cons, used, List.append_assoc, ← ih.ignored]

theorem usable_iff : usable files environment path = true ↔
    ∃ config, (loadWith files environment path).1 = .ok config := by
  rw [usable]
  cases (loadWith files environment path).1 <;> simp [Except.isOk, Except.toBool]

/-- What cannot be used fails with an error. -/
theorem usable_eq_false_iff : usable files environment path = false ↔
    ∃ error, (loadWith files environment path).1 = .error error := by
  rw [usable]
  cases (loadWith files environment path).1 <;> simp [Except.isOk, Except.toBool]

/-! ## What does not count -/

theorem loadWith_congr (same : changed.read path = files.read path) :
    loadWith changed environment path = loadWith files environment path := by
  rw [loadWith, load, read, Files.readText, same]
  rfl

/-- Whether a file can be used depends on that file alone. -/
theorem usable_congr (same : changed.read path = files.read path) :
    usable changed environment path = usable files environment path := by
  rw [usable, loadWith_congr same, usable]

/-- Whatever is missing may as well not be listed. -/
theorem loadFirst_filter (files : Files) (environment : Environment) (paths : List String) :
    loadFirst files environment (paths.filter files.leads) = loadFirst files environment paths := by
  induction paths with
  | nil => rfl
  | cons path rest ih =>
    cases leads : files.leads path with
    | false => rw [List.filter_cons_of_neg (by simp [leads]), ih, loadFirst_of_missing leads]
    | true => rw [List.filter_cons_of_pos leads, loadFirst, loadFirst, ih]

/-- Only the files listed count. -/
theorem loadFirst_congr (leads : ∀ path ∈ paths, changed.leads path = files.leads path)
    (reads : ∀ path ∈ paths, files.leads path = true → changed.read path = files.read path) :
    loadFirst changed environment paths = loadFirst files environment paths := by
  induction paths with
  | nil => rfl
  | cons path rest ih =>
    obtain ⟨leads, leads_rest⟩ := List.forall_mem_cons.mp leads
    obtain ⟨reads, reads_rest⟩ := List.forall_mem_cons.mp reads
    rw [loadFirst, loadFirst, leads, ih leads_rest reads_rest]
    split
    next there => rw [loadWith_congr (reads there)]
    next => rfl

/-- Nothing counts that stands behind a file that can be used. -/
theorem loadFirst_cut (leads : files.leads path = true)
    (used : usable files environment path = true) (before after : List String) :
    loadFirst files environment (before ++ path :: after) =
      loadFirst files environment (before ++ [path]) := by
  induction before with
  | nil =>
    obtain ⟨config, loads⟩ := usable_iff.mp used
    have whole : loadWith files environment path =
        (.ok config, (loadWith files environment path).2) := by
      rw [← loads]
    rw [List.nil_append, List.nil_append, loadFirst_of_ok leads whole, loadFirst_of_ok leads whole]
  | cons earlier before ih =>
    rw [List.cons_append, List.cons_append, loadFirst, loadFirst, ih]

/-! ## Files that fail in another way -/

/-- Whatever is passed over is there and cannot be used. -/
theorem of_mem_passedOver (passed : path ∈ passedOver files environment paths) :
    path ∈ paths.filter files.leads ∧ usable files environment path = false := by
  refine ⟨(List.takeWhile_sublist _).subset passed, ?_⟩
  simpa using List.mem_takeWhile_imp passed

theorem takeWhile_congr {α : Type} {p q : α → Bool} {xs : List α} (same : ∀ x ∈ xs, p x = q x) :
    xs.takeWhile p = xs.takeWhile q := by
  induction xs with
  | nil => rfl
  | cons x xs ih =>
    obtain ⟨first, rest⟩ := List.forall_mem_cons.mp same
    rw [List.takeWhile_cons, List.takeWhile_cons, first, ih rest]

/-- Other contents for files that are passed over, which cannot be used either. -/
structure Refails (files changed : Files) (environment : Environment) (paths : List String) :
    Prop where
  leads : ∀ path ∈ paths, changed.leads path = files.leads path
  reads : ∀ path ∈ paths, path ∉ passedOver files environment paths →
    files.leads path = true → changed.read path = files.read path
  fails : ∀ path ∈ passedOver files environment paths, ∃ error,
    (loadWith changed environment path).1 = .error error

namespace Refails

variable (refails : Refails files changed environment paths)
include refails

theorem filter_eq : paths.filter changed.leads = paths.filter files.leads :=
  List.filter_congr refails.leads

theorem usable_eq (candidate : path ∈ paths.filter files.leads) :
    usable changed environment path = usable files environment path := by
  obtain ⟨listed, leads⟩ := List.mem_filter.mp candidate
  by_cases passed : path ∈ passedOver files environment paths
  · rw [(of_mem_passedOver passed).2, usable_eq_false_iff]
    exact refails.fails path passed
  · exact usable_congr (refails.reads path listed passed leads)

theorem passedOver_eq :
    passedOver changed environment paths = passedOver files environment paths := by
  rw [passedOver, refails.filter_eq, passedOver]
  exact takeWhile_congr fun path candidate => by rw [refails.usable_eq candidate]

/-- The search ends at the same file. -/
theorem source_eq : (loadFirst changed environment paths).source =
    (loadFirst files environment paths).source := by
  rw [(outcome changed environment paths).source, (outcome files environment paths).source,
    refails.filter_eq]
  exact List.find?_congr fun path candidate => refails.usable_eq candidate

/-- The configuration found is the same. -/
theorem config_eq : (loadFirst changed environment paths).config =
    (loadFirst files environment paths).config := by
  have now := outcome changed environment paths
  have before := outcome files environment paths
  have same := refails.source_eq
  cases found : (loadFirst files environment paths).source with
  | none => rw [now.config_of_none (same.trans found), before.config_of_none found]
  | some path =>
    have loads := before.config_of_source path found
    have candidate : path ∈ paths.filter files.leads :=
      List.mem_of_find?_eq_some (before.source.symm.trans found)
    have kept : path ∉ passedOver files environment paths := by
      intro passed
      obtain ⟨error, fails⟩ := usable_eq_false_iff.mp (of_mem_passedOver passed).2
      cases loads.symm.trans fails
    obtain ⟨listed, leads⟩ := List.mem_filter.mp candidate
    have again := now.config_of_source path (same.trans found)
    rw [loadWith_congr (refails.reads path listed kept leads), loads] at again
    exact (Except.ok.inj again).symm

/-- The failures are those of the same files, as these now fail. -/
theorem failures_eq : (loadFirst changed environment paths).failures.map Except.error =
    (passedOver files environment paths).map fun path =>
      (loadWith changed environment path).1 := by
  rw [(outcome changed environment paths).failures, refails.passedOver_eq]

/-- The failure of a file that has not changed stays where it was. -/
theorem failure_eq {i : Nat} (passed : (passedOver files environment paths)[i]? = some path)
    (kept : changed.read path = files.read path) :
    (loadFirst changed environment paths).failures[i]? =
      (loadFirst files environment paths).failures[i]? := by
  have now := congrArg (·[i]?) refails.failures_eq
  have before := congrArg (·[i]?) (outcome files environment paths).failures
  simp only [List.getElem?_map, passed, Option.map_some] at now before
  rw [loadWith_congr kept, ← before] at now
  exact Option.map_injective (fun _ _ => Except.error.inj) now

end Refails

/-! ## Searching -/

/-- What is known of a search. -/
structure Searches (files : Files) (environment : Environment) (paths : List String) : Prop where
  outcome : Outcome files environment paths (loadFirst files environment paths)
  /-- A search that comes to no file has passed over all that are there. -/
  all_of_none : (loadFirst files environment paths).source = none →
    passedOver files environment paths = paths.filter files.leads
  /-- Only the paths that lead somewhere count, and what is read there. -/
  missing : ∀ (changed : Files) (others : List String),
    others.filter changed.leads = paths.filter files.leads →
    (∀ path ∈ paths, files.leads path = true → changed.read path = files.read path) →
      loadFirst changed environment others = loadFirst files environment paths
  /-- Neither the paths behind the source count nor the files there. -/
  later : ∀ (before : List String) (path : String) (after : List String),
    paths = before ++ path :: after →
    (loadFirst files environment paths).source = some path →
      ∀ (changed : Files) (others : List String),
        (∀ earlier ∈ before ++ [path], changed.leads earlier = files.leads earlier) →
        (∀ earlier ∈ before ++ [path], files.leads earlier = true →
          changed.read earlier = files.read earlier) →
          loadFirst changed environment (before ++ path :: others) =
            loadFirst files environment paths
  /-- What is wrong with a file that is passed over shows only in its own failure. -/
  replaced : ∀ changed : Files, Refails files changed environment paths →
    (loadFirst changed environment paths).source = (loadFirst files environment paths).source ∧
      (loadFirst changed environment paths).config = (loadFirst files environment paths).config ∧
      (loadFirst changed environment paths).failures.map Except.error =
        (passedOver files environment paths).map (fun path =>
          (loadWith changed environment path).1) ∧
      ∀ (i : Nat) (path : String), (passedOver files environment paths)[i]? = some path →
        changed.read path = files.read path →
          (loadFirst changed environment paths).failures[i]? =
            (loadFirst files environment paths).failures[i]?

/-- A search gives the settings of the first file that can be used, or what the environment makes of
the defaults, and says of every file that is passed over what is wrong with it. -/
theorem searching (files : Files) (environment : Environment) (paths : List String) :
    Searches files environment paths := by
  constructor
  case outcome => exact outcome files environment paths
  case all_of_none =>
    intro nowhere
    have unusable := List.find?_eq_none.mp
      ((outcome files environment paths).source.symm.trans nowhere)
    exact List.takeWhile_eq_self_iff.mpr fun path candidate => by
      simpa using unusable path candidate
  case missing =>
    intro changed others same reads
    rw [← loadFirst_filter changed, same, ← loadFirst_filter files]
    have leads : ∀ path ∈ paths.filter files.leads, changed.leads path = files.leads path := by
      intro path candidate
      have there : path ∈ others.filter changed.leads := same ▸ candidate
      rw [(List.mem_filter.mp there).2, (List.mem_filter.mp candidate).2]
    exact loadFirst_congr leads fun path candidate =>
      reads path (List.mem_filter.mp candidate).1
  case later =>
    rintro before path after rfl found changed others leads reads
    have listed : path ∈ before ++ [path] := by simp
    have chosen := (outcome files environment _).source.symm.trans found
    have there : files.leads path = true :=
      (List.mem_filter.mp (List.mem_of_find?_eq_some chosen)).2
    have used : usable files environment path = true := List.find?_some chosen
    rw [loadFirst_cut there used,
      loadFirst_cut ((leads path listed).trans there)
        ((usable_congr (reads path listed there)).trans used)]
    exact loadFirst_congr leads reads
  case replaced =>
    intro changed refails
    exact ⟨refails.source_eq, refails.config_eq, refails.failures_eq,
      fun i path => refails.failure_eq⟩

example :
    (loadFirst (.ofList [("a.toml", .ok "port".toUTF8), ("b.toml", .ok "".toUTF8)]) (fun _ => none)
      ["gone.toml", "a.toml", "b.toml", "a.toml"]).source = some "b.toml" := by
  decide +kernel

end Switchboard.Config
