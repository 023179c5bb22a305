import MarkdownCanon.CommandLine.Session
import MarkdownCanon.Proofs.Acceptance
import MarkdownCanon.Proofs.FileTree

/-! What the steps of a run do. In a session without a log file, what a step adds to the session and
how it ends depends on the disk alone; so a run is told from its steps. -/

namespace MarkdownCanon

/-- Documents that a grammar lets be read are read whole, and failures to read one have a report. -/
def Parser.Orderly (parser : Parser) : Prop :=
  ∀ bytes, match ReaderSettings.read {} parser {} (.bytes bytes) {} with
    | .ok document _ => document.HoldsTexts
    | .error e _ => e.problem?.isSome = true

namespace Parser

/-- A parser that knows some texts and finds all others nested too deeply. -/
def knowing (table : List (String × List Token)) : Parser := fun _ text =>
  match table.lookup text with
  | some tokens => .tokens tokens
  | none => .tooDeep

/-- Whether tokens are read as a document that is whole, or refused with a report. -/
def reads (tokens : List Token) : Bool :=
  match Token.readBlocks false false tokens {} with
  | .ok blocks _ => (Node.document blocks).every (!·.isTextless)
  | .error e _ => e.problem?.isSome

end Parser

/-- The canonical form of some bytes, or why they have none. -/
def Formatter.canonical (formatter : Formatter) (bytes : List UInt8) : Except Failure String :=
  match formatter.format (.bytes bytes) {} with
  | .ok text _ => .ok text
  | .error e _ => .error e

namespace Formatter

/-- The formatter of a run, which is set up once for all documents. -/
def plain (parser : Parser) (settings : RendererSettings) : Formatter :=
  { parser, request := { base := some settings } }

variable {parser : Parser} {settings : RendererSettings}

end Formatter

namespace CommandLine

/-- Whether a channel is one of those that the caller hands over. -/
def Channel.isHanded : Channel → Bool
  | output | errors => true
  | processOutput | processErrors => false

/-- What has gone to the streams that were handed over. -/
def handed (sent : List (Channel × String)) : List (Channel × String) :=
  sent.filter (·.1.isHanded)

@[simp] theorem handed_append (a b : List (Channel × String)) :
    handed (a ++ b) = handed a ++ handed b :=
  List.filter_append ..

/-- What a step adds to a session, the log apart. -/
structure Effect where
  handed : List (Channel × String) := []
  opened : List Path := []
  failures : Nat := 0

namespace Effect

def append (first second : Effect) : Effect :=
  { handed := first.handed ++ second.handed
    opened := first.opened ++ second.opened
    failures := first.failures + second.failures }

instance : Append Effect := ⟨append⟩

@[simp] theorem handed_append (a b : Effect) : (a ++ b).handed = a.handed ++ b.handed := rfl

@[simp] theorem opened_append (a b : Effect) : (a ++ b).opened = a.opened ++ b.opened := rfl

@[simp] theorem failures_append (a b : Effect) : (a ++ b).failures = a.failures + b.failures := rfl

theorem append_eq (a b : Effect) :
    a ++ b = ⟨a.handed ++ b.handed, a.opened ++ b.opened, a.failures + b.failures⟩ := rfl

@[simp] theorem append_empty (a : Effect) : a ++ ({} : Effect) = a := by
  cases a
  simp [append_eq]

@[simp] theorem empty_append (a : Effect) : ({} : Effect) ++ a = a := by
  cases a
  simp [append_eq]

/-- A path is given up with a message. -/
def failed (label message : String) : Effect :=
  { handed := [(.errors, label ++ ": " ++ message ++ "\n")], failures := 1 }

end Effect

/-- A session after an effect, on the disk that it has then. -/
structure Session.Became (s : Session) (effect : Effect) (disk : Disk) (t : Session) : Prop where
  disk : t.disk = disk
  log : t.log = s.log
  handed : handed t.sent = CommandLine.handed s.sent ++ effect.handed
  opened : t.opened = s.opened ++ effect.opened
  failures : t.failures = s.failures + effect.failures

theorem Session.Became.trans {s t u : Session} {a b : Effect} {disk disk' : Disk}
    (h : s.Became a disk t) (h' : t.Became b disk' u) : s.Became (a ++ b) disk' u where
  disk := h'.disk
  log := h'.log.trans h.log
  handed := by simp [h'.handed, h.handed]
  opened := by simp [h'.opened, h.opened]
  failures := by simp [h'.failures, h.failures, Nat.add_assoc]

namespace Run

variable {α β : Type}

/-- The end of a step. -/
def ending (result : Except PathError α) (s : Session) : EStateM.Result PathError Session α :=
  match result with
  | .ok a => .ok a s
  | .error e => .error e s

theorem bind_ok {x : Run α} {f : α → Run β} {s t : Session} {a : α} (h : x s = .ok a t) :
    (x >>= f) s = f a t := by
  change EStateM.bind x f s = _
  rw [EStateM.bind, h]

/-- `Does x disk effect disk' result`: in every session on `disk` that has no log file, the step `x`
has the effect, leaves `disk'` and ends with the result. -/
def Does (x : Run α) (disk : Disk) (effect : Effect) (disk' : Disk)
    (result : Except PathError α) : Prop :=
  ∀ ⦃s : Session⦄, s.disk = disk → s.log.file = none →
    ∃ t, x s = ending result t ∧ s.Became effect disk' t

namespace Does

variable {disk disk' disk'' : Disk} {effect effect' : Effect}

theorem pure (disk : Disk) (a : α) : Does (pure a) disk {} disk (.ok a) := by
  intro s here _
  exact ⟨s, rfl, here, rfl, by simp, by simp, rfl⟩

theorem throw (disk : Disk) (e : PathError) : Does (throw e : Run α) disk {} disk (.error e) := by
  intro s here _
  exact ⟨s, rfl, here, rfl, by simp, by simp, rfl⟩

theorem bind {x : Run α} {f : α → Run β} {a : α} {result : Except PathError β}
    (hx : Does x disk effect disk' (.ok a)) (hf : Does (f a) disk' effect' disk'' result) :
    Does (x >>= f) disk (effect ++ effect') disk'' result := by
  intro s here quiet
  obtain ⟨t, run, became⟩ := hx here quiet
  obtain ⟨u, run', became'⟩ := hf became.disk (by rw [became.log, quiet])
  exact ⟨u, (Run.bind_ok run).trans run', became.trans became'⟩

theorem get_bind {f : Session → Run α} {result : Except PathError α}
    (hf : ∀ s : Session, s.disk = disk → Does (f s) disk effect disk' result) :
    Does (get >>= f) disk effect disk' result := by
  intro s here quiet
  exact hf s here here quiet

theorem after {x : Run α} {f : α → Run β} {a : α} {result : Except PathError β}
    (hx : Does x disk {} disk' (.ok a)) (hf : Does (f a) disk' effect disk'' result) :
    Does (x >>= f) disk effect disk'' result := by
  have both := hx.bind hf
  rwa [Effect.empty_append] at both

theorem before {x : Run α} {f : α → Run β} {a : α} {result : Except PathError β}
    (hx : Does x disk effect disk' (.ok a)) (hf : Does (f a) disk' {} disk'' result) :
    Does (x >>= f) disk effect disk'' result := by
  have both := hx.bind hf
  rwa [Effect.append_empty] at both

theorem adjust {f : Session → Session}
    (h : ∀ s : Session, s.disk = disk → s.Became effect disk' (f s)) :
    Does (modify f) disk effect disk' (.ok ()) :=
  fun s here _ => ⟨f s, rfl, h s here⟩

theorem send (disk : Disk) (channel : Channel) (handed : channel.isHanded = true)
    (text : String) :
    Does (send channel text) disk { handed := [(channel, text)] } disk (.ok ()) := by
  apply adjust
  intro s here
  exact ⟨here, rfl, by simp [CommandLine.handed, handed], by simp, rfl⟩

theorem sendLine (disk : Disk) (channel : Channel) (handed : channel.isHanded = true)
    (line : String) :
    Does (sendLine channel line) disk { handed := [(channel, line ++ "\n")] } disk (.ok ()) :=
  send disk channel handed (line ++ "\n")

/-- Without a log file, a record shows on the terminal at most. -/
theorem record (disk : Disk) (entry : Log.Record) :
    Does (record entry) disk {} disk (.ok ()) := by
  intro s here quiet
  refine ⟨_, rfl, ?_, rfl, ?_, by simp, rfl⟩
  · dsimp only [Log.Setup.write]
    rw [quiet, here]
    split <;> rfl
  · dsimp only
    split <;> simp [CommandLine.handed, Channel.isHanded]

theorem recordAll (disk : Disk) (entries : List Log.Record) :
    Does (recordAll entries) disk {} disk (.ok ()) := by
  induction entries with
  | nil => exact pure disk ()
  | cons entry rest ih =>
    apply (record disk entry).after
    exact ih

theorem absorb (disk : Disk) (journal : Journal) : Does (absorb journal) disk {} disk (.ok ()) := by
  apply (recordAll disk journal.records).after
  apply adjust
  intro s here
  exact ⟨here, rfl, by simp, by simp, rfl⟩

theorem report (disk : Disk) (label : String) {e : PathError} {message : String}
    (reported : e.report? = some message) :
    Does (report label e) disk (.failed label message) disk (.ok ()) := by
  unfold Run.report
  rw [reported]
  dsimp only
  have whole : Effect.failed label message =
      { handed := [(.errors, label ++ ": " ++ message ++ "\n")] } ++ { failures := 1 } := rfl
  have counted : Does (modify fun s => { s with failures := s.failures + 1 }) disk
      { failures := 1 } disk (.ok ()) := by
    apply adjust
    intro s here
    exact ⟨here, rfl, by simp, by simp, rfl⟩
  rw [whole]
  refine (sendLine disk .errors rfl _).bind ?_
  refine (record disk _).after ?_
  exact counted

theorem ofFormatting (disk : Disk) (formatter : Formatter) (bytes : List UInt8) :
    Does (ofFormatting (formatter.format (.bytes bytes))) disk {} disk
      ((formatter.canonical bytes).mapError .failure) := by
  unfold Run.ofFormatting Formatter.canonical
  cases formatter.format (.bytes bytes) {} with
  | ok text journal => exact (absorb disk journal).after (pure disk text)
  | error e journal => exact (absorb disk journal).after (throw disk _)

/-- A step that is taken or left out, before all others. -/
theorem optional {x : Run Unit} {f : Unit → Run α} {result : Except PathError α} {c : Bool}
    (hx : c = true → Does x disk effect disk (.ok ()))
    (hf : Does (f ()) disk effect' disk' result) :
    Does (if c then x >>= f else f ()) disk ((if c then effect else {}) ++ effect') disk'
      result := by
  cases c with
  | false => simpa using hf
  | true => exact (hx rfl).bind hf

end Does

end Run

namespace Job

open Run

variable {job : Job} {disk disk' : Disk} {path : Path} {bytes : List UInt8}

/-- What is sent for a document that is listed. -/
def listing (job : Job) (label : String) : Effect :=
  if job.list then { handed := [(.output, label ++ "\n")] } else {}

/-- What is sent for a document whose changes are shown. -/
def showing (job : Job) (label old new : String) : Effect :=
  let lines := (Diff.unified old new label Diff.defaultContext).map Diff.Line.text
  if job.diff then
    { handed := [(.errors, "diff " ++ label ++ " mdfmt/" ++ label ++ "\n"),
        (.output, Diff.print job.color lines)] }
  else {}

/-- What is sent for a document where nothing but its canonical form is asked for. -/
def printing (job : Job) (text : String) : Effect :=
  if !(job.list || job.write || job.diff) then { handed := [(.output, text)] } else {}

@[simp] theorem listing_rest (job : Job) (label : String) :
    (job.listing label).opened = [] ∧ (job.listing label).failures = 0 := by
  unfold listing
  split <;> exact ⟨rfl, rfl⟩

@[simp] theorem showing_rest (job : Job) (label old new : String) :
    (job.showing label old new).opened = [] ∧ (job.showing label old new).failures = 0 := by
  unfold showing
  dsimp only
  split <;> exact ⟨rfl, rfl⟩

theorem showDiff_does (job : Job) (disk : Disk) (label old new : String) (shown : job.diff = true) :
    Does (job.showDiff label old new) disk (job.showing label old new) disk (.ok ()) := by
  have whole : job.showing label old new =
      { handed := [(.errors, "diff " ++ label ++ " mdfmt/" ++ label ++ "\n")] } ++
        { handed := [(.output, Diff.print job.color
          ((Diff.unified old new label Diff.defaultContext).map Diff.Line.text))] } := by
    rw [showing, shown]
    rfl
  rw [whole]
  refine (Does.sendLine disk .errors rfl _).bind ?_
  exact Does.send disk .output rfl _

/-- The last thing that is done for a document that changes. -/
theorem showing_does (job : Job) (disk : Disk) (label old new : String) :
    Does (if job.diff then job.showDiff label old new else pure ()) disk
      (job.showing label old new) disk (.ok ()) := by
  by_cases shown : job.diff = true
  · rw [if_pos shown]
    exact job.showDiff_does disk label old new shown
  · rw [if_neg shown, showing, if_neg shown]
    exact Does.pure disk ()

theorem listing_does {f : Unit → Run Unit} {effect : Effect} {result : Except PathError Unit}
    (job : Job) (label : String) (h : Does (f ()) disk effect disk' result) :
    Does (if job.list then Run.sendLine .output label >>= f else f ()) disk
      (job.listing label ++ effect) disk' result :=
  Does.optional (fun _ => Does.sendLine disk .output rfl label) h

theorem onChange_kept (keeps : job.write = false) (label : String) (path : Option Path)
    (old new : String) (disk : Disk) :
    Does (job.onChange label path old new) disk (job.listing label ++ job.showing label old new)
      disk (.ok ()) := by
  unfold onChange
  refine (Does.record disk _).after (listing_does job label ?_)
  rw [keeps]
  exact job.showing_does disk label old new

theorem printing_does (job : Job) (text : String) (disk : Disk) :
    Does (if !(job.list || job.write || job.diff) then Run.send .output text else pure ()) disk
      (job.printing text) disk (.ok ()) := by
  unfold printing
  split
  · exact Does.send disk .output rfl text
  · exact Does.pure disk ()

/-- A document that is in canonical form is at most printed. -/
theorem processSource_canonical (label : String) (path : Option Path) {text : String}
    (h : job.formatter.canonical bytes = .ok text) (same : Formatter.encoded text = bytes)
    (disk : Disk) :
    Does (job.processSource label path bytes) disk (job.printing text) disk (.ok ()) := by
  have formatted := Does.ofFormatting disk job.formatter bytes
  rw [h] at formatted
  refine formatted.after ?_
  rw [if_neg (by simp [same])]
  exact job.printing_does text disk

theorem processSource_changed (label : String) (path : Option Path) {text : String}
    (h : job.formatter.canonical bytes = .ok text) (other : Formatter.encoded text ≠ bytes)
    {effect : Effect} (change : Does (job.onChange label path (textOf bytes) text) disk effect disk'
      (.ok ())) :
    Does (job.processSource label path bytes) disk (effect ++ job.printing text) disk'
      (.ok ()) := by
  have formatted := Does.ofFormatting disk job.formatter bytes
  rw [h] at formatted
  refine formatted.after ?_
  rw [if_pos (by simpa using other)]
  exact change.bind (job.printing_does text disk')

end Job

end CommandLine

namespace Disk

/-- Why a path does not stand for all documents below a folder, if it is one. -/
def stop? (disk : Disk) (given : String) : Option OsError :=
  if disk.isFolder (.ofText given) then (disk.discover (.ofText given)).2.map (·.2) else none

end Disk

namespace CommandLine

/-- A path whose documents could not all be found is reported itself. -/
def Effect.stopped (given : String) : Option OsError → Effect
  | some e => .failed given e.message
  | none => {}

namespace Job

open Run

variable {job : Job} {disk disk' : Disk}

end Job

/-- The texts that have gone to a channel. -/
def sentOn (channel : Channel) (sent : List (Channel × String)) : List String :=
  (sent.filter (·.1 == channel)).map (·.2)

@[simp] theorem sentOn_append (channel : Channel) (a b : List (Channel × String)) :
    sentOn channel (a ++ b) = sentOn channel a ++ sentOn channel b := by
  simp [sentOn]

theorem sentOn_handed {channel : Channel} (h : channel.isHanded = true)
    (sent : List (Channel × String)) : sentOn channel (handed sent) = sentOn channel sent := by
  unfold sentOn handed
  rw [List.filter_filter]
  congr 2
  funext m
  by_cases same : m.1 = channel
  · simp [same, h]
  · simp [same]

end CommandLine

end MarkdownCanon
