import SlsDetModel.Port.Runs

/-!
# String replies on the port

The port follows the pointer of a string reply in two places, to dump the reply and to store its
text, and both come right after the `request()` that returned it. That is the condition under which
a driver keeps its string replies legible (`Operating`), and it is kept by whatever clients call:
even the status of a connection may be written by them.
-/

namespace SlsDet

variable {lib : ℕ → Library} {cfg : SlsDetConfig} {enums : EnumBuffers} {k : PortSystem}
  {ls : List PortLabel} {a : ℕ} {d : SlsDetDriver}

/-- **Every driver operates**, in every state of every run. -/
theorem operating_of_run (hrun : (system lib cfg).run (start cfg enums) ls = some k)
    (hd : k.shared.dets a = some d) : d.Operating := by
  have hholds := (runs_of_run hrun).holds
  unfold Client.Holds at hholds
  split at hholds
  case h_1 => exact hholds.operating a d hd
  case h_2 =>
    obtain ⟨s, -, ⟨hop, -⟩, -⟩ := hholds
    exact hop a d hd
  case h_3 => exact hholds.operating a d hd

/-- **String replies are never stale.** Whenever the port follows the pointer of a string reply,
the slot still holds the version it points to, the text is the one the worker computed for that
very call, and the call is none whose reply was flushed. -/
theorem string_replies_fresh (hrun : (system lib cfg).run (start cfg enums) ls = some k)
    (hd : k.shared.dets a = some d) {i : Inspection} (hi : i ∈ d.journal.inspected)
    (hstr : i.rep.dtype = .string) :
    d.Faithful i ∧ ∀ p ∈ d.journal.flushed, p.call ≠ i.call := by
  have hop := operating_of_run hrun hd
  have hfaithful := hop.legible.inspected i hi hstr
  refine ⟨hfaithful, fun p hp hcall ↦ ?_⟩
  obtain ⟨e, -, -, -, -, -, ho⟩ := hfaithful
  exact hop.legible.discarded p hp _ ho hcall.symm i.rep rfl

/-- The host name is read. -/
def named : List PortLabel := online 0 ++ on .hostName 0 (.readOctet 40 []) :: exchange 0 ++
  [.resume 0, .resume 0]

/-- Both looks at the reply are of this kind. -/
theorem string_replies_fresh_named : ∃ k d,
    (system (fun _ ↦ SlsDetDriver.healthy) (bench 1)).run (start (bench 1) blank) named = some k ∧
      k.shared.dets 0 = some d ∧ d.journal.inspected.length = 2 ∧
      ∀ i ∈ d.journal.inspected, d.Faithful i := by
  have hmap : ((system (fun _ ↦ SlsDetDriver.healthy) (bench 1)).run (start (bench 1) blank)
      named).map (fun k ↦ (k.shared.dets 0).map fun d ↦ d.journal.inspected.map fun i ↦
        i.rep.dtype) = some (some [.string, .string]) := by decide +kernel
  obtain ⟨k, hrun, hk⟩ := Option.map_eq_some_iff.1 hmap
  obtain ⟨d, hd, hlooks⟩ := Option.map_eq_some_iff.1 hk
  refine ⟨k, d, hrun, hd, by simpa using congrArg List.length hlooks, fun i hi ↦ ?_⟩
  have hmem : i.rep.dtype ∈ [DataType.string, .string] := hlooks ▸ List.mem_map_of_mem hi
  exact (string_replies_fresh hrun hd hi (by simpa using hmem)).1

end SlsDet
