import RawProfile.Command.Demo
import RawProfile.Proofs.Command.Contents
import RawProfile.Proofs.Dump.Hosted
import RawProfile.Proofs.Dump.Stored
import RawProfile.Proofs.FileSystem.Plain
import RawProfile.Proofs.Session.Decode

/-!
# The command from its arguments to the file

The demo command dumps its specimen as planned (`exists_dumpSpecimen`), so it either leaves the file
of the specimen in the directory and nothing else, or fails and leaves everything as it was.
`run_parsed` says which of the two, for every command line that can be read.
-/

namespace RawProfile.Command

/-- Everything that the command asks for is in order, and this is its directory. -/
structure Accepted (readFilter : String → Except LogFilter.Fault Unit) (fs : FileSystem)
    (o : Options) (l : Location) : Prop where
  filter : readFilter o.logFilter = .ok ()
  functions : o.functions.toNat ≤ 4096
  counters : o.counters.toNat ≤ 1024
  namesLength : o.namesLength.toNat ≤ 1048576
  directory : fs.directory? o.outDir = some l
  free : fs.find? (l ++ ["default.profraw"]) ≠ some .directory

variable {parse : List String → (String → Option String) → Except Refusal Options}
  {readFilter : String → Except LogFilter.Fault Unit} {fs : FileSystem} {o : Options}
  {l : Location}

theorem Accepted.bounded (h : Accepted readFilter fs o l) : o.size.Bounded :=
  ⟨h.functions, h.counters, h.namesLength⟩

theorem check_eq_ok_iff {isDirectory : String → Bool} :
    o.check readFilter isDirectory = .ok () ↔ readFilter o.logFilter = .ok () ∧
      o.size.Bounded ∧ isDirectory o.outDir = true := by
  have hbounded : o.size.Bounded ↔ o.functions.toNat ≤ maxFunctions ∧
      o.counters.toNat ≤ maxCounters ∧ o.namesLength.toNat ≤ maxNamesLength :=
    ⟨fun ⟨h₁, h₂, h₃⟩ => ⟨h₁, h₂, h₃⟩, fun ⟨h₁, h₂, h₃⟩ => ⟨h₁, h₂, h₃⟩⟩
  rw [hbounded, Options.check]
  split
  · next h => simp [h]
  · next h => simp [h]
  · next h =>
    simp only [guard_eq_ok_iff, Nat.not_lt, Bool.not_eq_true', Bool.not_eq_false, h, true_and,
      and_true, and_assoc]

theorem exitCode_ne_zero (failure : Failure) : failure.exitCode ≠ 0 := by
  cases failure <;> exact Nat.succ_ne_zero _

theorem exitCode_eq_one {failure : Failure} (h : failure ≠ .tornLogFilter) :
    failure.exitCode = 1 := by
  cases failure <;> first | rfl | exact absurd rfl h

theorem torn_of_check {isDirectory : String → Bool}
    (h : o.check readFilter isDirectory = .error .tornLogFilter) :
    readFilter o.logFilter = .error .torn := by
  rw [Options.check] at h
  split at h
  · cases h
  · assumption
  · simp only [ite_eq_iff, reduceCtorEq, and_false, or_false, Except.error.injEq] at h

variable {σ : Type} [Transport σ]

/-- A specimen that is not too large is dumped as planned, and nothing else happens. -/
theorem exists_dumpSpecimen {size : Specimen.Size} (h : size.Bounded) :
    ∃ d : Dump, d.plan.value = .ok (Specimen.plan size) ∧ ∀ t : σ,
      (dumpSpecimen size t).value = (d.writeTo defaultFileName t).value.1.mapError .dumpFailed ∧
      (dumpSpecimen size t).transport = (d.writeTo defaultFileName t).transport := by
  obtain ⟨m, hm, hdata, hcounters, hnames⟩ := Specimen.exists_memory h
  refine ⟨Specimen.dump size m, Dump.plan_eq_ok_iff.2 (Specimen.plans h hdata hcounters hnames),
    fun t => ?_⟩
  have hsession : Run.ofLogged (Specimen.session size) t =
      ⟨{ registry := Specimen.finalRegistry size, gate := .armed }, t, [],
        (Specimen.session size).events⟩ := by
    rw [Run.ofLogged, Specimen.value_session h]
  obtain ⟨hvalue, -, htransport⟩ := Session.shutdown_of_armed
    (s := { registry := Specimen.finalRegistry size, gate := .armed }) rfl (.sparse m) t
  have hwritten : (({ registry := Specimen.finalRegistry size, gate := .armed } : Session).writeFile
      (.sparse m) t).value = ((Specimen.dump size m).writeTo defaultFileName t).value.1 := rfl
  rw [dumpSpecimen, hm]
  simp only [Run.bind_apply, hsession, hvalue, hwritten]
  cases ((Specimen.dump size m).writeTo defaultFileName t).value.1 with
  | error e => exact ⟨rfl, htransport⟩
  | ok summary => exact ⟨rfl, htransport⟩

/-! ## The file system afterwards -/

def output (fs : FileSystem) (o : Options) : DirectoryOutput :=
  { fileSystem := fs, directory := o.outDir }

theorem plain_defaultFileName : PathText.Plain defaultFileName := by decide +kernel

theorem dumpSpecimen_of_creatable (h : o.size.Bounded)
    (hl : (output fs o).Creatable defaultFileName l) :
    (∃ summary, (dumpSpecimen o.size (output fs o)).value = .ok summary) ∧
      (output fs o).Replaces defaultFileName l (Specimen.file o.size)
        (dumpSpecimen o.size (output fs o)).transport := by
  obtain ⟨d, hplan, hdump⟩ := exists_dumpSpecimen (σ := DirectoryOutput) h
  obtain ⟨hvalue, htransport⟩ := hdump (output fs o)
  obtain ⟨⟨summary, hsummary⟩, hreplaces⟩ := Dump.stores_directory hplan hl
  rw [Specimen.file_plan h] at hreplaces
  rw [hvalue, htransport, hsummary]
  exact ⟨⟨summary, rfl⟩, hreplaces⟩

theorem dumpSpecimen_of_not_target (h : o.size.Bounded)
    (htarget : ∀ l, fs.target (PathText.join o.outDir defaultFileName) ≠ .ok l) :
    (∃ e, (dumpSpecimen o.size (output fs o)).value = .error (.dumpFailed e)) ∧
      (dumpSpecimen o.size (output fs o)).transport = output fs o := by
  obtain ⟨d, hplan, hdump⟩ := exists_dumpSpecimen (σ := DirectoryOutput) h
  obtain ⟨hvalue, htransport⟩ := hdump (output fs o)
  cases hfull : fs.target (PathText.join o.outDir defaultFileName) with
  | ok l => exact absurd hfull (htarget l)
  | error e =>
    have hopen : (Transport.openFile (output fs o) defaultFileName).value =
        (.error ⟨PathText.join o.outDir defaultFileName, e.message⟩, output fs o) := by
      change (DirectoryOutput.openFile _ _).value = _
      rw [DirectoryOutput.openFile, output, FileSystem.openForWriting, hfull]
      rfl
    obtain ⟨hfailed, hunchanged⟩ := Dump.writeTo_unopened hplan hopen
    rw [hvalue, htransport, hfailed]
    exact ⟨⟨_, rfl⟩, hunchanged⟩

section Parsed

variable {args : List String} {environment : String → Option String}

theorem run_of_accepted (hparse : parse args environment = .ok o)
    (h : Accepted readFilter fs o l)
    (hlength : (PathText.join o.outDir "default.profraw").utf8ByteSize ≤ PathText.maxPath)
    (hdevice : ∀ device, fs.find? (l ++ ["default.profraw"]) ≠ some (.device device)) :
    let report := run parse readFilter args environment fs
    report.exitCode = 0 ∧
    report.fileSystem.find? (l ++ ["default.profraw"]) = some (.file (Specimen.file o.size)) ∧
    ∀ other, other ≠ l ++ ["default.profraw"] →
      report.fileSystem.find? other = fs.find? other := by
  intro report
  have hreport : report = run parse readFilter args environment fs := rfl
  have hcheck : o.check readFilter (fun path => (fs.directory? path).isSome) = .ok () :=
    check_eq_ok_iff.2 ⟨h.filter, h.bounded, by rw [h.directory]; rfl⟩
  have htarget : fs.target (PathText.join o.outDir defaultFileName) =
      .ok (l ++ [defaultFileName]) :=
    (FileSystem.target_join_eq_ok_iff h.directory plain_defaultFileName).2 ⟨hlength, h.free, rfl⟩
  obtain ⟨⟨summary, hsummary⟩, hreplaces⟩ :=
    dumpSpecimen_of_creatable h.bounded ⟨htarget, hdevice⟩
  rw [run, hparse] at hreport
  dsimp only at hreport
  rw [hcheck] at hreport
  dsimp only at hreport
  rw [output] at hsummary hreplaces
  rw [hsummary] at hreport
  rw [hreport]
  exact ⟨rfl, hreplaces.file, hreplaces.others⟩

theorem run_of_not_accepted (hparse : parse args environment = .ok o)
    (hnone : ∀ l, ¬ Accepted readFilter fs o l) :
    let report := run parse readFilter args environment fs
    report.exitCode ≠ 0 ∧
    (readFilter o.logFilter ≠ .error .torn → report.exitCode = 1) ∧
    report.fileSystem = fs := by
  intro report
  have hreport : report = run parse readFilter args environment fs := rfl
  rw [run, hparse] at hreport
  dsimp only at hreport
  cases hcheck : o.check readFilter (fun path => (fs.directory? path).isSome) with
  | error failure =>
    rw [hcheck] at hreport
    rw [hreport]
    refine ⟨exitCode_ne_zero failure, fun htorn => exitCode_eq_one fun heq => htorn ?_, rfl⟩
    rw [heq] at hcheck
    exact torn_of_check hcheck
  | ok =>
    obtain ⟨hfilter, hbounded, hdirectory⟩ := check_eq_ok_iff.1 hcheck
    obtain ⟨l, hl⟩ := Option.isSome_iff_exists.1 hdirectory
    have htarget : ∀ l', fs.target (PathText.join o.outDir defaultFileName) ≠ .ok l' := by
      intro l' htarget
      obtain ⟨-, hfree, -⟩ :=
        (FileSystem.target_join_eq_ok_iff hl plain_defaultFileName).1 htarget
      exact hnone l ⟨hfilter, hbounded.functions, hbounded.counters, hbounded.namesLength, hl,
        hfree⟩
    obtain ⟨⟨e, he⟩, hunchanged⟩ := dumpSpecimen_of_not_target hbounded htarget
    rw [hcheck] at hreport
    dsimp only at hreport
    rw [output] at he hunchanged
    rw [he, hunchanged] at hreport
    rw [hreport]
    exact ⟨Nat.one_ne_zero, fun _ => rfl, rfl⟩

end Parsed

/-- For every command line and environment that can be read: if everything is in order, the command
ends well, and the file of the specimen is all that has changed. Otherwise it fails, and nothing
has changed. That a file can be created below its directory, at a path that is not too long and
where no device stands, is up to the operating system. -/
theorem run_parsed (parse : List String → (String → Option String) → Except Refusal Options)
    (readFilter : String → Except LogFilter.Fault Unit) (args : List String)
    (environment : String → Option String) (fs : FileSystem) (o : Options)
    (hparse : parse args environment = .ok o) :
    let report := run parse readFilter args environment fs
    (∀ l, Accepted readFilter fs o l →
      (PathText.join o.outDir "default.profraw").utf8ByteSize ≤ PathText.maxPath →
      (∀ device, fs.find? (l ++ ["default.profraw"]) ≠ some (.device device)) →
        report.exitCode = 0 ∧
        report.fileSystem.find? (l ++ ["default.profraw"]) =
          some (.file (Specimen.file o.size)) ∧
        ∀ other, other ≠ l ++ ["default.profraw"] →
          report.fileSystem.find? other = fs.find? other) ∧
    ((∀ l, ¬ Accepted readFilter fs o l) →
      report.exitCode ≠ 0 ∧
      (readFilter o.logFilter ≠ .error .torn → report.exitCode = 1) ∧
      report.fileSystem = fs) :=
  ⟨fun _ h hlength hdevice => run_of_accepted hparse h hlength hdevice,
    fun hnone => run_of_not_accepted hparse hnone⟩

/-- A file of an earlier run is replaced, and too many counters leave it alone. -/
theorem run_parsed_again :
    let fs : FileSystem :=
      { nodes := [(["out"], .directory), (["out", "default.profraw"], .file (zeroBytes 200))] }
    let environment := fun name => if name = "PROFRT_OUT_DIR" then some "out" else none
    let report :=
      run Options.parse LogFilter.read ["--functions", "2", "--names-len=10"] environment fs
    let refused := run Options.parse LogFilter.read ["--counters", "2000"] environment fs
    (report.exitCode = 0 ∧ report.fileSystem.find? ["out", "default.profraw"] =
      some (.file (Specimen.file ⟨2, 3, 10⟩))) ∧
    refused.exitCode = 1 ∧ refused.fileSystem = fs := by
  intro fs environment report refused
  have hparse : Options.parse ["--functions", "2", "--names-len=10"] environment =
      .ok { outDir := "out", functions := 2, namesLength := 10 } := by decide +kernel
  have hrefused : Options.parse ["--counters", "2000"] environment =
      .ok { outDir := "out", counters := 2000 } := by decide +kernel
  have hfilter : LogFilter.read "info" = .ok () := by decide +kernel
  have haccepted : Accepted LogFilter.read fs { outDir := "out", functions := 2, namesLength := 10 }
      ["out"] :=
    ⟨hfilter, by decide, by decide, by decide, by decide +kernel, by decide +kernel⟩
  obtain ⟨hdone, -⟩ := run_parsed Options.parse LogFilter.read _ environment fs _ hparse
  obtain ⟨-, hfailed⟩ := run_parsed Options.parse LogFilter.read _ environment fs _ hrefused
  obtain ⟨hexit, hfile, -⟩ := hdone ["out"] haccepted (by decide +kernel) fun _ h => nomatch h
  have hmany : ∀ l, ¬ Accepted LogFilter.read fs { outDir := "out", counters := 2000 } l :=
    fun l h => absurd h.counters (by decide)
  obtain ⟨-, hexit', hunchanged⟩ := hfailed hmany
  exact ⟨⟨hexit, hfile⟩, hexit' (by rw [hfilter]; exact nofun), hunchanged⟩

end RawProfile.Command
