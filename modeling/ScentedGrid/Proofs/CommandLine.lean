import ScentedGrid.CommandLine.Response
import ScentedGrid.Proofs.Trace.Cut

/-! The two ways to run a source from the command line. A source is compiled to a file that is run
later, or compiled and run at once; the two answer alike, since the file holds the bytes that would
have been run. Where a command fails, it fails before it prints anything and before it writes. -/

namespace ScentedGrid.CommandLine

open Text

variable {τ : Type} (platform : Platform τ)

/-! ## Files -/

namespace Directory

theorem lookup_filter {name other : String} (apart : other ≠ name)
    (files : List (String × List UInt8)) :
    (files.filter (·.1 != name)).lookup other = files.lookup other := by
  induction files with
  | nil => rfl
  | cons file rest ih =>
    obtain ⟨kept, content⟩ := file
    by_cases replaced : kept = name
    · have passed : (other == kept) = false := beq_false_of_ne (replaced ▸ apart)
      rw [List.filter_cons_of_neg (by simpa using replaced), ih, List.lookup_cons, passed]
    · rw [List.filter_cons_of_pos (by simpa using replaced), List.lookup_cons, List.lookup_cons, ih]

variable {directory next : Directory} {path : String} {content : List UInt8}

theorem write_named (named : (fileName? path).isSome) (directory : Directory)
    (content : List UInt8) : ∃ next, directory.write path content = .ok next := by
  obtain ⟨name, named⟩ := Option.isSome_iff_exists.1 named
  rw [write, named]
  exact ⟨_, rfl⟩

theorem read_written (written : directory.write path content = .ok next) :
    next.read path = .ok content := by
  unfold write at written
  split at written
  · next name named =>
    cases written
    rw [read, named, Option.bind_some, List.lookup_cons_self]
  · cases written

theorem read_unwritten {other : String} (written : directory.write path content = .ok next)
    (apart : fileName? other ≠ fileName? path) : next.read other = directory.read other := by
  unfold write at written
  split at written
  · next name named =>
    cases written
    cases found : fileName? other with
    | none => rw [read, read, found, Option.bind_none, Option.bind_none]
    | some reached =>
      have passed : reached ≠ name := by
        intro same
        rw [found, named, same] at apart
        exact apart rfl
      rw [read, read, found, Option.bind_some, Option.bind_some, List.lookup_cons,
        beq_false_of_ne passed]
      simp only [lookup_filter passed]
  · cases written

/-- What a command line answers in a directory, and what it leaves of the directory. -/
def perform (directory : Directory) (platform : Platform τ) (arguments : List String) :
    Response × Directory :=
  (respond platform access arguments).run directory

variable {arguments : List String} {source output : String}

theorem access_write (directory : Directory) (path : String) (content : List UInt8) :
    (access.write path content).run directory = match directory.write path content with
      | .ok next => (.ok (), next)
      | .error fault => (.error fault, directory) := by
  change StateT.run (match directory.write path content with
    | .ok next => (do
      set next
      return .ok () : StateM Directory (Except FileFault Unit))
    | .error fault => return .error fault) directory = _
  cases directory.write path content <;> rfl

theorem perform_compile (asked : Invocation.parse arguments = .ok (.compile source output))
    (directory : Directory) :
    directory.perform platform arguments = match compileFile source (directory.read source) with
      | .error failure => (failure.response platform.visible "", directory)
      | .ok bytecode =>
        match directory.write output bytecode with
        | .error fault => ((Failure.write output fault).response platform.visible "", directory)
        | .ok next => (.done "", next) := by
  rw [perform, respond, asked]
  change StateT.run (match compileFile source (directory.read source) with
    | .error failure => (return failure.response platform.visible "" : StateM Directory Response)
    | .ok bytecode => writeFile platform.visible access output bytecode) directory = _
  cases compileFile source (directory.read source) with
  | error failure => rfl
  | ok bytecode =>
    simp only
    rw [writeFile, StateT.run_bind, access_write]
    cases directory.write output bytecode <;> rfl

theorem perform_run (asked : Invocation.parse arguments = .ok (.run path))
    (directory : Directory) :
    directory.perform platform arguments = match directory.read path with
      | .error fault => ((Failure.read path fault).response platform.visible "", directory)
      | .ok bytecode => (trace platform.visible bytecode, directory) := by
  rw [perform, respond, asked]
  change StateT.run (match directory.read path with
    | .error fault =>
      (return (Failure.read path fault).response platform.visible "" : StateM Directory Response)
    | .ok bytecode => return trace platform.visible bytecode) directory = _
  cases directory.read path <;> rfl

theorem perform_exec (asked : Invocation.parse arguments = .ok (.exec source))
    (directory : Directory) :
    directory.perform platform arguments = match compileFile source (directory.read source) with
      | .error failure => (failure.response platform.visible "", directory)
      | .ok bytecode => (trace platform.visible bytecode, directory) := by
  rw [perform, respond, asked]
  change StateT.run (match compileFile source (directory.read source) with
    | .error failure => (return failure.response platform.visible "" : StateM Directory Response)
    | .ok bytecode => return trace platform.visible bytecode) directory = _
  cases compileFile source (directory.read source) <;> rfl

end Directory

/-! ## Arguments -/

/-- A word that stands for a file wherever one is wanted. -/
structure IsPath (word : String) : Prop where
  plain : Token.ofArgument word = .plain
  filled : word.isEmpty = false

section

variable {path source output : String}

theorem collect_path {form : Form} (operand : form.operand = true) (named : IsPath path)
    (rest : List String) : form.collect (path :: rest) ⟨none, []⟩ =
      form.collect rest ⟨some path, []⟩ := by
  have taken : form.withOperand ⟨none, []⟩ path = .ok ⟨some path, []⟩ := by
    simp only [Form.withOperand, operand, named.filled]
    rfl
  rw [Form.collect, named.plain]
  simp only [taken]

theorem collect_output (placed : IsPath output) (given : Option String) :
    (Subcommand.form .compile).collect ["-o", output] ⟨given, []⟩ =
      .ok (some ⟨given, [("output", .path output)]⟩) := by
  have token : Token.ofArgument "-o" = .short 'o' none := rfl
  have value : Form.withValue ⟨given, []⟩ Subcommand.output output =
      .ok ⟨given, [("output", .path output)]⟩ := by
    have read : Kind.path.read? output = some (.path output) := by
      rw [Kind.read?, placed.filled]
      rfl
    simp only [Form.withValue, Subcommand.output, read]
    rfl
  have flag : (Subcommand.form .compile).flag? (.short 'o' none) =
      some (Subcommand.output, none) := rfl
  rw [Form.collect, token]
  simp only [flag, placed.plain, value]
  rfl

theorem parse_collected {name : String} {command : Subcommand} {rest : List String} {given : Given}
    (named : Subcommand.ofName? name = some command)
    (collected : command.form.collect rest ⟨none, []⟩ = .ok (some given)) :
    Invocation.parse (name :: rest) = command.invocation given := by
  rw [Invocation.parse, named]
  simp only [collected]

theorem parse_run (named : IsPath path) : Invocation.parse ["run", path] = .ok (.run path) :=
  @parse_collected "run" .run [path] ⟨some path, []⟩ rfl (collect_path rfl named [])

theorem parse_exec (named : IsPath path) : Invocation.parse ["exec", path] = .ok (.exec path) :=
  @parse_collected "exec" .exec [path] ⟨some path, []⟩ rfl (collect_path rfl named [])

theorem parse_compile (named : IsPath source) (placed : IsPath output) :
    Invocation.parse ["compile", source, "-o", output] = .ok (.compile source output) :=
  parse_collected rfl ((collect_path rfl named _).trans (collect_output placed _))

end

/-! ## Failures -/

/-- A response that fails has printed nothing. -/
def Response.Clean (response : Response) : Prop := response.exit = 1 → response.stdout = ""

theorem Response.done_clean (text : String) : (done text).Clean := fun failed => by cases failed

variable (visible : Char → Bool)

theorem Failure.response_clean (failure : Failure) : (failure.response visible "").Clean :=
  fun _ => rfl

/-- All robots have a landing before the first event is told, and then no robot can fail. -/
theorem trace_clean (bytecode : List UInt8) : (trace visible bytecode).Clean := by
  cases decoded : Mission.decode bytecode with
  | error error =>
    rw [trace, execute_of_refused decoded]
    exact Failure.response_clean visible _
  | ok mission =>
    by_cases landed : mission.Lands
    · rw [trace, execute_of_decode decoded,
        mission.simulate_willing landed (Sink.jsonText_willing "")]
      exact Response.done_clean _
    · obtain ⟨robot, found⟩ := Option.ne_none_iff_exists'.1 (mt Mission.find_nowhere.1 landed)
      rw [trace, execute_of_decode decoded, mission.simulate_nowhere found]
      exact Failure.response_clean visible _

theorem benchmark_clean (mission : Mission) (rounds : Nat) :
    (benchmark visible mission rounds).Clean := by
  rw [benchmark]
  cases Totals.ofRounds mission.source rounds .zero with
  | error error => exact Failure.response_clean visible _
  | ok totals => exact fun _ => rfl

variable {σ : Type}

/-- Whatever state a command starts in, its response is clean. -/
def AnswersClean (command : StateM σ Response) : Prop := ∀ state, (command.run state).1.Clean

theorem answersClean_pure {response : Response} (clean : response.Clean) :
    AnswersClean (pure response : StateM σ Response) := fun _ => clean

theorem answersClean_bind {α : Type} (first : StateM σ α) {next : α → StateM σ Response}
    (clean : ∀ found, AnswersClean (next found)) : AnswersClean (first >>= next) :=
  fun state => clean (first.run state).1 (first.run state).2

theorem writeFile_clean (files : FileAccess (StateM σ)) (path : String) (content : List UInt8) :
    AnswersClean (writeFile visible files path content) := by
  apply answersClean_bind
  intro written
  cases written with
  | error fault => exact answersClean_pure (Failure.response_clean visible _)
  | ok => exact answersClean_pure (Response.done_clean "")

theorem Invocation.respond_clean (files : FileAccess (StateM σ)) (invocation : Invocation) :
    AnswersClean (invocation.respond platform files) := by
  cases invocation with
  | help => exact answersClean_pure (Response.done_clean usage)
  | compile source output =>
    apply answersClean_bind
    intro content
    cases compileFile source content with
    | error failure => exact answersClean_pure (failure.response_clean _)
    | ok bytecode => exact writeFile_clean _ files output bytecode
  | run path =>
    apply answersClean_bind
    intro content
    cases content with
    | error fault => exact answersClean_pure (Failure.response_clean _ _)
    | ok bytecode => exact answersClean_pure (trace_clean _ bytecode)
  | exec source =>
    apply answersClean_bind
    intro content
    cases compileFile source content with
    | error failure => exact answersClean_pure (failure.response_clean _)
    | ok bytecode => exact answersClean_pure (trace_clean _ bytecode)
  | disasm path =>
    apply answersClean_bind
    intro content
    cases content with
    | error fault => exact answersClean_pure (Failure.response_clean _ _)
    | ok bytecode => exact answersClean_pure (Response.done_clean _)
  | generate plan seed output =>
    rw [Invocation.respond]
    cases platform.sampler.mission? plan (platform.sampler.ofSeed seed) with
    | none => exact answersClean_pure (Failure.response_clean _ _)
    | some mission =>
      cases output with
      | none => exact answersClean_pure (Response.done_clean _)
      | some path => exact writeFile_clean _ files path _
  | bench plan seed rounds =>
    rw [Invocation.respond]
    cases platform.sampler.mission? plan (platform.sampler.ofSeed seed) with
    | none => exact answersClean_pure (Failure.response_clean _ _)
    | some mission => exact answersClean_pure (benchmark_clean _ mission rounds)

theorem respond_clean (files : FileAccess (StateM σ)) (arguments : List String) :
    AnswersClean (respond platform files arguments) := by
  rw [respond]
  cases Invocation.parse arguments with
  | error misuse => exact answersClean_pure fun failed => by cases failed
  | ok invocation => exact invocation.respond_clean platform files

/-! ## Compiled or run at once -/

/-- A source that compiles to a file runs from that file as it runs at once, and a source that does
not compile fails at once in the same way and leaves the directory as it was. No command whatever
prints anything to `stdout` when it fails. All of that holds on any platform. -/
theorem compile_run_eq_exec {compiling running executing : List String} {source output : String}
    (compiles : Invocation.parse compiling = .ok (.compile source output))
    (runs : Invocation.parse running = .ok (.run output))
    (executes : Invocation.parse executing = .ok (.exec source))
    (writable : (Directory.fileName? output).isSome)
    (apart : Directory.fileName? source ≠ Directory.fileName? output) (directory : Directory) :
    let compiled := directory.perform platform compiling
    (compiled.1.exit = 0 ∨ compiled.1.exit = 1) ∧
    (compiled.1.exit = 0 →
      (compiled.2.perform platform running).1 = (compiled.2.perform platform executing).1 ∧
      (compiled.2.perform platform running).1 = (directory.perform platform executing).1) ∧
    (compiled.1.exit = 1 → compiled.2 = directory ∧
      (directory.perform platform executing).1.exit = 1 ∧
      (directory.perform platform executing).1.stderr = compiled.1.stderr) ∧
    ∀ {σ : Type} (files : FileAccess (StateM σ)) (state : σ) (arguments : List String),
      ((respond platform files arguments).run state).1.exit = 1 →
      ((respond platform files arguments).run state).1.stdout = "" := by
  intro compiled
  have exec := directory.perform_exec platform executes
  have compile := directory.perform_compile platform compiles
  have silent {σ : Type} (files : FileAccess (StateM σ)) (state : σ) (arguments : List String) :
      ((respond platform files arguments).run state).1.Clean :=
    respond_clean platform files arguments state
  cases content : compileFile source (directory.read source) with
  | error failure =>
    rw [content] at exec compile
    have same : compiled = (failure.response platform.visible "", directory) := compile
    rw [same, exec]
    exact ⟨.inr rfl, fun failed => (by cases failed), fun _ => ⟨rfl, rfl, rfl⟩, silent⟩
  | ok bytecode =>
    obtain ⟨next, written⟩ := Directory.write_named writable directory bytecode
    rw [content] at exec compile
    simp only [written] at compile
    have same : compiled = (.done "", next) := compile
    have run := next.perform_run platform runs
    rw [Directory.read_written written] at run
    have again := next.perform_exec platform executes
    rw [Directory.read_unwritten written apart, content] at again
    rw [same, exec, run, again]
    exact ⟨.inl rfl, fun _ => ⟨rfl, rfl⟩, fun failed => (by cases failed), silent⟩

/-- A source that runs, and bytes that are no text. -/
theorem compile_run_eq_exec_garbled :
    let content := Utf8.encode "Square 5 3\nA\nMove 1 1 E\nRotate F\n"
    let directory : Directory := ⟨[("a", content), ("b", [1])]⟩
    let compiled := directory.perform .standard ["compile", "a", "-o", "b"]
    let garbled : Directory := ⟨[("a", [0xFF]), ("b", [1])]⟩
    let failed := garbled.perform .standard ["compile", "a", "-o", "b"]
    compiled.1.exit = 0 ∧
      (compiled.2.perform .standard ["run", "b"]).1 =
        (directory.perform .standard ["exec", "a"]).1 ∧
      failed.1.exit = 1 ∧ failed.2 = garbled ∧
      (garbled.perform .standard ["exec", "a"]).1.stderr = failed.1.stderr ∧
      failed.1.stdout = "" := by
  intro content directory compiled garbled failed
  have source : IsPath "a" := ⟨rfl, rfl⟩
  have output : IsPath "b" := ⟨rfl, rfl⟩
  have agreement := compile_run_eq_exec .standard (parse_compile source output) (parse_run output)
    (parse_exec source) (by decide +kernel) (by decide +kernel)
  have done : compiled.1.exit = 0 := by decide +kernel
  have refused : failed.1.exit = 1 := by decide +kernel
  obtain ⟨_, alike, _, _⟩ := agreement directory
  obtain ⟨_, _, kept, clean⟩ := agreement garbled
  exact ⟨done, (alike done).2, refused, (kept refused).1, (kept refused).2.2,
    clean Directory.access garbled ["compile", "a", "-o", "b"] refused⟩

end ScentedGrid.CommandLine
