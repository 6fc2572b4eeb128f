import UseCase.CommandLine.Arguments

/-!
# The program

A run of the program, as a function of its arguments, its environment, its standard input and the
files of the system. The result holds what happened in order, the files afterwards, and the failure
if there was one.
-/

namespace UseCase.CommandLine

/-- How a run of the program ended. -/
inductive Ending where
  | done
  /-- The arguments are no call of the program. -/
  | misused
  | failed (report : Report)
  deriving DecidableEq, Repr

/-- The exit status. -/
def Ending.status : Ending → Nat
  | done => 0
  | failed _ => 1
  | misused => 2

/-- A finished run of the program. -/
structure Completion where
  ending : Ending
  /-- The host as it was left. -/
  host : Host

/-- What happened, in order. -/
def Completion.events (c : Completion) : List Event :=
  c.host.events.reverse

/-- Everything that was printed. -/
def Completion.printed (c : Completion) : String :=
  String.join (c.events.filterMap fun
    | .print text => some text
    | .complain _ | .wait _ => none)

/-- Everything that was told about failures. -/
def Completion.told (c : Completion) : String :=
  let complaints := String.join (c.events.filterMap fun
    | .complain text => some text
    | .print _ | .wait _ => none)
  match c.ending with
  | .failed report => complaints ++ report.text
  | .done | .misused => complaints

namespace Program

/-- The catalog of a call. -/
def catalog (env : Environment) (i : Invocation) : Except Fault Catalog :=
  match i.configDir with
  | some root => .ok ⟨root⟩
  | none => env.catalog

/-- The loader of a catalog, on a desk. -/
def loader (c : Catalog) : Loader Desk :=
  c.loader.onPart (fun d => d.host.files) fun d files =>
    { d with host := { d.host with files := files } }

/-- The desk of a call. -/
def desk (i : Invocation) (host : Host) : Desk where
  mixer := .create [] i.sleeps i.executes i.stateFile
  host := host

/-- Takes the text of a batch; a dash stands for the standard input. -/
def takeBatch (file : String) : EStateM Report Host String := do
  let h ← get
  if file = "-" then
    set { h with input := [] }
    match Text.ofBytes? h.input with
    | some text => return text
    | none => throw (.plain SystemFault.notText.message)
  else
    let refuse := fun (cause : SystemFault) =>
      (Report.plain cause.message).during ("reading " ++ file)
    ofExcept ((h.files.read file).mapError refuse)

/-- Lists the cards. -/
def listCards (c : Catalog) (i : Invocation) (d : Desk) : Completion :=
  match c.cards d.host.files with
  | .ok entries => ⟨.done, d.host.emit (.print ((Output.list entries).render i.json))⟩
  | .error fault =>
    ⟨.failed ((Report.ofFault fault).during ("listing cards in " ++ c.root)), d.host⟩

/-- Opens the card and carries out what is asked of it. -/
def withCard (c : Catalog) (i : Invocation) (d : Desk) (x : EStateM Report Desktop Unit) :
    Completion :=
  match Session.open? (loader c) 0 i.card d with
  | .error fault d =>
    ⟨.failed ((Report.ofFault fault).during s!"opening card '{i.card}'"), d.host⟩
  | .ok s _ =>
    match x s with
    | .ok _ s => ⟨.done, s.rig.surface.host⟩
    | .error report s => ⟨.failed report, s.rig.surface.host⟩

/-- Carries out a call. -/
def perform (c : Catalog) (i : Invocation) (d : Desk) : Completion :=
  match i.task with
  | .cards => listCards c i d
  | .request r => withCard c i d (r.run (loader c) i.json)
  | .batch file => withCard c i d do
    Batch.run (loader c) i.json (← onHost (takeBatch file))

/-- Runs the program. -/
def run (args : List String) (host : Host) : Completion :=
  match Invocation.ofArguments? args with
  | none => ⟨.misused, host⟩
  | some i =>
    match catalog host.environment i with
    | .error fault => ⟨.failed (.ofFault fault), host⟩
    | .ok c => perform c i (desk i host)

end Program

end UseCase.CommandLine
