import MarkdownCanon.Proofs.RunEffects

/-! Documents rewritten in place. A run that writes settles the files that it is given one by one,
each from what it held before the run, and touches no other. -/

namespace MarkdownCanon

namespace StoredFile

variable (form : List UInt8 → Option (List UInt8))

/-- The form that a file should have, if it can be read and has one. -/
def target? (stored : StoredFile) : Option (List UInt8) :=
  if stored.readable then form stored.contents else none

/-- Whether a file should have a form that it does not have. -/
def needsWriting (stored : StoredFile) : Bool :=
  (stored.target? form).any (· != stored.contents)

/-- Whether a file cannot be brought into form. -/
def fails (stored : StoredFile) : Bool :=
  (stored.target? form).all fun target => target != stored.contents && !stored.writable

/-- A file after a run that writes: in form if it can be brought there, else as it was. -/
def settled (stored : StoredFile) : StoredFile :=
  match stored.target? form with
  | some target =>
    if stored.writable || target == stored.contents then { stored with contents := target }
    else stored
  | none => stored

end StoredFile

namespace Disk

variable (form : List UInt8 → Option (List UInt8))

/-- Whether a path leads to a file that needs writing. -/
def opensAt (disk : Disk) (path : Path) : Bool :=
  (disk.file? path).any fun (_, stored) => stored.needsWriting form

/-- Whether a path leads to no file, or to one that cannot be brought into form. -/
def failsAt (disk : Disk) (path : Path) : Bool :=
  (disk.file? path).all fun (_, stored) => stored.fails form

variable {form} {disk : Disk} {path : Path} {way : List String} {stored : StoredFile}

end Disk

namespace CommandLine

@[simp] theorem Effect.stopped_opened (given : String) (stop : Option OsError) :
    (Effect.stopped given stop).opened = [] := by
  cases stop <;> rfl

theorem Effect.stopped_handed {given : String} {stop : Option OsError} {m : Channel × String}
    (inside : m ∈ (Effect.stopped given stop).handed) : m.1 = .errors := by
  cases stop with
  | none => cases inside
  | some e =>
    rw [List.mem_singleton.mp inside]

namespace Job

open Run

/-- What a run that writes does for some documents, and for the folders of some paths that could not
be searched through. -/
structure Settles (job : Job) (form : List UInt8 → Option (List UInt8)) (disk : Disk)
    (documents : List Path) (stopped : List String) (effect : Effect) : Prop where
  opened : effect.opened = documents.filter (disk.opensAt form)
  failures : effect.failures = documents.countP (disk.failsAt form) + stopped.length
  silent : job.list = false → job.diff = false → ∀ m ∈ effect.handed, m.1 ≠ .output

variable {job : Job} {form : List UInt8 → Option (List UInt8)} {disk : Disk} {path : Path}
  {way : List String} {stored : StoredFile}

theorem Settles.append {ps qs : List Path} {xs ys : List String} {a b : Effect}
    (h : job.Settles form disk ps xs a) (h' : job.Settles form disk qs ys b) :
    job.Settles form disk (ps ++ qs) (xs ++ ys) (a ++ b) where
  opened := by rw [Effect.opened_append, h.opened, h'.opened, List.filter_append]
  failures := by
    rw [Effect.failures_append, h.failures, h'.failures, List.countP_append, List.length_append]
    omega
  silent list diff m inside :=
    (List.mem_append.mp inside).elim (h.silent list diff m) (h'.silent list diff m)

/-- A path whose search was stopped counts as one failure. -/
theorem Settles.stopped (job : Job) (given : String) :
    job.Settles form disk [] ([given].filter fun g => (disk.stop? g).isSome)
      (.stopped given (disk.stop? given)) := by
  constructor
  · simp
  · cases stop : disk.stop? given <;> simp [stop, Effect.stopped, Effect.failed]
  · intro _ _ m inside
    simp [Effect.stopped_handed inside]

section Step

variable {parser : Parser} {settings : RendererSettings}

end Step

section Run

variable {parser : Parser} {settings : RendererSettings}

end Run

section Sample

end Sample

end Job

end CommandLine

end MarkdownCanon
