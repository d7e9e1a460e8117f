import BicepTemplates.Command.Run
import BicepTemplates.Proofs.File.Store

/-! # What rendering leaves behind

Entering directories changes no file. A manifest that is not loaded, built and rendered then leaves
everything as it is, whatever output was asked for. Otherwise the text is printed, or written to
one file, or no file can be written and nothing is.
-/

namespace BicepTemplates

section Stages

variable {loaded : Except LoadError Manifest} {e : TemplateError} {text : String}

/-- The stage that fails is the first that does. -/
inductive Manifest.Fails (loaded : Except LoadError Manifest) : TemplateError → Prop where
  | load {cause : LoadError} (h : loaded = .error cause) : Fails loaded (.load cause)
  | build {m : Manifest} {cause : ManifestError} (hload : loaded = .ok m)
      (h : m.document = .error cause) : Fails loaded (.build cause)
  | render {m : Manifest} {d : Document} {cause : Error} (hload : loaded = .ok m)
      (hbuild : m.document = .ok d) (h : d.render = .error cause) : Fails loaded (.render cause)

/-- The text comes out of the last stage. -/
def Manifest.Yields (loaded : Except LoadError Manifest) (text : String) : Prop :=
  ∃ m d warnings, loaded = .ok m ∧ m.document = .ok d ∧ d.render = .ok (text, warnings)

theorem Manifest.template_eq_error_iff : template loaded = .error e ↔ Fails loaded e := by
  simp only [template, bind_eq_error_iff, mapError_eq_error_iff, mapError_eq_ok_iff]
  constructor
  · rintro (⟨cause, hload, rfl⟩ | ⟨m, hload, ⟨cause, hbuild, rfl⟩ | ⟨d, hbuild, hrender⟩⟩)
    · exact .load hload
    · exact .build hload hbuild
    · rcases hrender with ⟨cause, hrender, rfl⟩ | ⟨_, -, hdone⟩
      · exact .render hload hbuild hrender
      · cases hdone
  · rintro (hload | ⟨hload, hbuild⟩ | ⟨hload, hbuild, hrender⟩)
    · exact .inl ⟨_, hload, rfl⟩
    · exact .inr ⟨_, hload, .inl ⟨_, hbuild, rfl⟩⟩
    · exact .inr ⟨_, hload, .inr ⟨_, hbuild, .inl ⟨_, hrender, rfl⟩⟩⟩

theorem Manifest.template_eq_ok_iff : template loaded = .ok text ↔ Yields loaded text := by
  simp only [template, bind_eq_ok_iff, mapError_eq_ok_iff]
  constructor
  · rintro ⟨m, hload, d, hbuild, ⟨_, warnings⟩, hrender, hdone⟩
    obtain rfl := Except.ok.inj hdone
    exact ⟨m, d, warnings, hload, hbuild, hrender⟩
  · rintro ⟨m, d, warnings, hload, hbuild, hrender⟩
    exact ⟨m, hload, d, hbuild, _, hrender, rfl⟩

theorem Manifest.fails_or_yields (loaded : Except LoadError Manifest) :
    (∃ e, Fails loaded e) ∨ ∃ text, Yields loaded text := by
  cases h : template loaded with
  | error e => exact .inl ⟨e, template_eq_error_iff.mp h⟩
  | ok text => exact .inr ⟨text, template_eq_ok_iff.mp h⟩

end Stages

namespace Site

variable {s t : Site} {directories : List String} {inputFile outputFile : Option String}
  {path text : String}

def manifest (s : Site) : Option String → Except LoadError Manifest
  | some path => Manifest.ofFile (s.read path)
  | none => Manifest.ofBytes s.input

def entered (s : Site) (directories : List String) : Except (List String) Unit × Site :=
  (directories.forM host.enterDirectory).run s

def run (s : Site) (arguments : List String) : Report × Site :=
  (host.run arguments).run s

/-- The run tells of an error and does nothing else. -/
structure Refused (files : FileStore) (result : Report × Site) : Prop where
  exit : result.1.exit = 1
  output : result.1.output = ""
  files : result.2.files = files

structure Printed (files : FileStore) (text : String) (result : Report × Site) : Prop where
  exit : result.1.exit = 0
  output : result.1.output = text
  files : result.2.files = files

/-- The text is in one file, where the path finds it, and everything else is as it was. -/
structure Written (files : FileStore) (path : String) (place : Place) (text : String)
    (result : Report × Site) : Prop where
  exit : result.1.exit = 0
  output : result.1.output = ""
  contents : result.2.files.contents? place = some text.toUTF8
  read : result.2.read path = .ok text.toUTF8
  others : ∀ q ≠ place, FileStore.entry? result.2.files q = files.entry? q

section Directories

theorem run_attempt (change : Site → Except FileError Site) (s : Site) :
    attempt change s = match change s with
      | .ok t => (.ok (), t)
      | .error e => (.error e, s) := by
  simp only [attempt, bind, StateT.bind, get, getThe, MonadStateOf.get, StateT.get, pure]
  cases change s <;> rfl

theorem run_enterDirectory (path : String) (s : Site) :
    (host.enterDirectory path).run s = match s.resolve path with
      | .error e =>
        (.error [s!"Failed to resolve path for -C/--directory {path}", e.message], s)
      | .ok full => match s.enter full with
        | .error e => (.error [s!"Failed to set work directory to {full}", e.message], s)
        | .ok t => (.ok (), t) := by
  have hresolve : host.resolve path s = (s.resolve path, s) := rfl
  rw [Host.enterDirectory, run_bind, run_liftM, hresolve]
  cases s.resolve path with
  | error e => rfl
  | ok full =>
    have henter : host.enter full s = attempt (enter full) s := rfl
    dsimp only
    rw [run_bind, run_liftM, henter, run_attempt]
    cases s.enter full <;> rfl

/-- The sites differ at most in where one stands. -/
structure Keeps (s t : Site) : Prop where
  files : t.files = s.files
  input : t.input = s.input

theorem Keeps.trans {r : Site} (hst : s.Keeps t) (htr : t.Keeps r) : s.Keeps r :=
  ⟨htr.files.trans hst.files, htr.input.trans hst.input⟩

theorem keeps_of_enter (h : s.enter path = .ok t) : s.Keeps t := by
  obtain ⟨⟨place, entry⟩, -, h⟩ := bind_eq_ok_iff.mp h
  cases entry with
  | file contents => cases h
  | directory =>
    obtain rfl := Except.ok.inj h
    exact ⟨rfl, rfl⟩

theorem keeps_enterDirectory (path : String) (s : Site) :
    s.Keeps ((host.enterDirectory path).run s).2 := by
  rw [run_enterDirectory]
  split
  · exact ⟨rfl, rfl⟩
  · split
    · exact ⟨rfl, rfl⟩
    · next henter => exact keeps_of_enter henter

theorem keeps_entered (directories : List String) (s : Site) :
    s.Keeps (s.entered directories).2 := by
  induction directories generalizing s with
  | nil => exact ⟨rfl, rfl⟩
  | cons path directories ih =>
    have hfirst := keeps_enterDirectory path s
    rw [entered, List.forM_eq_forM, List.forM_cons, run_bind]
    cases hpath : (host.enterDirectory path).run s with
    | mk answer t =>
      rw [hpath] at hfirst
      cases answer with
      | error lines => exact hfirst
      | ok _ => exact hfirst.trans (ih t)

end Directories

section Commands

theorem run_eq {arguments : List String} {command : Command}
    (h : Request.ofArguments arguments = .ok (.run ⟨directories, command⟩)) :
    s.run arguments = match s.entered directories with
      | (.error lines, t) => (.failed lines, t)
      | (.ok (), t) => host.runCommand command t := by
  rw [run, Host.run, h]
  show host.runInvocation ⟨directories, command⟩ s = _
  simp only [Host.runInvocation, bind, StateT.bind, entered]
  cases (directories.forM host.enterDirectory).run s with
  | mk answer t => cases answer <;> rfl

theorem runCommand_render (inputFile outputFile : Option String) (s : Site) :
    host.runCommand (.render inputFile outputFile) s =
      match Manifest.template (s.manifest inputFile) with
      | .ok text => host.deliver outputFile text s
      | .error e => (.failed [e.message], s) := by
  have hload : host.load inputFile s = (s.manifest inputFile, s) := by
    cases inputFile <;> rfl
  simp only [Host.runCommand, bind, StateT.bind, hload]
  cases Manifest.template (s.manifest inputFile) <;> rfl

theorem deliver_path (path text : String) (s : Site) :
    host.deliver (some path) text s = match s.write path text.toUTF8 with
      | .ok t => ({}, t)
      | .error e => (.failed [s!"Failed to write {path}", e.message], s) := by
  have hwrite : host.write path text.toUTF8 s = attempt (write path text.toUTF8) s := rfl
  simp only [Host.deliver, bind, StateT.bind, hwrite, run_attempt]
  cases s.write path text.toUTF8 <;> rfl

theorem written_deliver {place : Place}
    (h : s.files.target s.directory (.ofText path) = .ok place) :
    Written s.files path place text (host.deliver (some path) text s) := by
  have hwrite : s.write path text.toUTF8 =
      .ok { s with files := s.files.put place text.toUTF8 } := by
    refine bind_eq_ok_iff.mpr ⟨_, FileStore.write_eq_ok_iff.mpr ⟨place, h, rfl⟩, rfl⟩
  have hwritable := FileStore.target_eq_ok_iff.mp h
  rw [deliver_path, hwrite]
  exact {
    exit := rfl
    output := rfl
    contents := FileStore.contents?_put_self ..
    read := hwritable.read_put
    others := fun q hq => hwritable.entry?_put hq }

theorem refused_deliver {e : FileError}
    (h : s.files.target s.directory (.ofText path) = .error e) :
    Refused s.files (host.deliver (some path) text s) := by
  have hwrite : s.write path text.toUTF8 = .error e := by
    refine bind_eq_error_iff.mpr (.inl (bind_eq_error_iff.mpr (.inl h)))
  rw [deliver_path, hwrite]
  exact ⟨rfl, rfl, rfl⟩

end Commands

/-- A manifest that is not loaded, built or rendered leaves everything as it is. Any other gives a
text. It is printed and no file changes or, if a file is asked for and can be written, it is in that
file alone. No file changes either if a directory cannot be entered or the file cannot be written.
-/
theorem render_all_or_nothing (arguments directories : List String)
    (inputFile outputFile : Option String) (s : Site)
    (h : Request.ofArguments arguments =
      .ok (.run ⟨directories, .render inputFile outputFile⟩)) :
    (∀ lines t, s.entered directories = (.error lines, t) →
      Refused s.files (s.run arguments)) ∧
    ∀ t, s.entered directories = (.ok (), t) →
      s.Keeps t ∧
      ((∃ e, Manifest.Fails (t.manifest inputFile) e) ∨
        ∃ text, Manifest.Yields (t.manifest inputFile) text) ∧
      (∀ e, Manifest.Fails (t.manifest inputFile) e → Refused s.files (s.run arguments)) ∧
      ∀ text, Manifest.Yields (t.manifest inputFile) text →
        (outputFile = none → Printed s.files text (s.run arguments)) ∧
        ∀ path, outputFile = some path →
          (∀ place, t.files.target t.directory (.ofText path) = .ok place →
            Written s.files path place text (s.run arguments)) ∧
          ∀ e, t.files.target t.directory (.ofText path) = .error e →
            Refused s.files (s.run arguments) := by
  have hkeeps := s.keeps_entered directories
  have hrun := run_eq (s := s) h
  constructor
  · intro lines t ht
    rw [ht] at hkeeps hrun
    rw [hrun]
    exact ⟨rfl, rfl, hkeeps.files⟩
  · intro t ht
    rw [ht] at hkeeps hrun
    replace hkeeps : s.Keeps t := hkeeps
    replace hrun : s.run arguments = host.runCommand (.render inputFile outputFile) t := hrun
    rw [runCommand_render] at hrun
    rw [hrun, ← hkeeps.files]
    refine ⟨hkeeps, Manifest.fails_or_yields _, fun e he => ?_, fun text htext => ?_⟩
    · rw [Manifest.template_eq_error_iff.mpr he]
      exact ⟨rfl, rfl, rfl⟩
    · rw [Manifest.template_eq_ok_iff.mpr htext]
      constructor
      · rintro rfl
        exact ⟨rfl, rfl, rfl⟩
      · rintro path rfl
        exact ⟨fun place => written_deliver, fun e => refused_deliver⟩

/-- The only file is not text. It is kept when it is read as the manifest, also if the template
should replace it, and it is replaced by the template of an empty input. -/
theorem render_all_or_nothing_same_file :
    let s : Site := { files := { files := [(["m"], ⟨#[0xff]⟩)] } }
    Request.ofArguments ["render", "-f", "m", "-o", "m"] =
        .ok (.run ⟨[], .render (some "m") (some "m")⟩) ∧
      Manifest.Fails (s.manifest (some "m")) (.load (.file .notText)) ∧
      Refused s.files (s.run ["render", "-f", "m", "-o", "m"]) ∧
      Request.ofArguments ["render", "-o", "m"] = .ok (.run ⟨[], .render none (some "m")⟩) ∧
      Manifest.Yields (s.manifest none) "targetScope = 'resourceGroup'\n" ∧
      Written s.files "m" ["m"] "targetScope = 'resourceGroup'\n"
        (s.run ["render", "-o", "m"]) := by
  intro s
  have hread : Request.ofArguments ["render", "-f", "m", "-o", "m"] =
      .ok (.run ⟨[], .render (some "m") (some "m")⟩) := by rfl
  have hwrite : Request.ofArguments ["render", "-o", "m"] =
      .ok (.run ⟨[], .render none (some "m")⟩) := by rfl
  have hnames : "m".splitOn "/" = ["m"] := by
    rw [String.splitOn, if_neg (by decide), String.splitOnAux, if_neg (by decide),
      if_neg (by decide), String.splitOnAux, if_pos (by decide)]
    decide
  have hpath : FilePath.ofText "m" = ⟨false, ["m"], false⟩ := by
    rw [FilePath.ofText, hnames]
    rfl
  have hfails : Manifest.Fails (s.manifest (some "m")) (.load (.file .notText)) := by
    refine .load ?_
    rw [manifest, Site.read, hpath]
    rfl
  have hyields : Manifest.Yields (s.manifest none) "targetScope = 'resourceGroup'\n" :=
    ⟨{}, {}, [], by rfl, rfl, by rfl⟩
  have htarget : s.files.target s.directory (.ofText "m") = .ok ["m"] := by
    rw [hpath]
    rfl
  have hrefused := ((render_all_or_nothing _ _ _ _ s hread).2 s rfl).2.2.1 _ hfails
  have hwritten := (((render_all_or_nothing _ _ _ _ s hwrite).2 s rfl).2.2.2 _ hyields).2 _ rfl
  exact ⟨hread, hfails, hrefused, hwrite, hyields, hwritten.1 _ htarget⟩

end Site

end BicepTemplates
