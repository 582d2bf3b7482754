import SlsDetModel.Port.Atomic
import SlsDetModel.Strings.Delimited

/-!
# Configuration

`SlsDetConfigure`, the command that creates a port. Of its arguments the list of host names is the
one that is worked on: a loop over the positions of `'+'` cuts it into tokens, the last token is
what follows the last `'+'`, and empty tokens are dropped. The address of a detector is the place
of its host name in what results.

Cutting a string past its end would be an exception, so the functions below are partial.
`splitHostnames_eq_segments` shows that they are defined for every text, and that they compute its
segments in the sense of `Delimited`; `configure_correct` says the same of the port.
-/

namespace SlsDet

open Delimited

/-- Append a token, unless it is empty. -/
def pushToken (hostnames : List Text) (token : Text) : List Text :=
  if token.isEmpty then hostnames else hostnames ++ [token]

/-- The loop: `last` is where the next token starts. -/
def splitLoop (orig : Text) (last : ℕ) (hostnames : List Text) : Option (ℕ × List Text) :=
  match _h : findFrom '+' orig last with
  | some next => do
    let token ← substr orig last (next - last)
    splitLoop orig (next + 1) (pushToken hostnames token)
  | none => some (last, hostnames)
termination_by orig.length - last
decreasing_by
  have := lt_length_of_findFrom _h
  omega

/-- The host names of a list of them. -/
def splitHostnames (orig : Text) : Option (List Text) := do
  let (last, hostnames) ← splitLoop orig 0 []
  let token ← substrFrom orig last
  pure (pushToken hostnames token)

/-- `SlsDetConfigure`: the arguments that the port is constructed with. -/
def slsDetConfigure (asyn : Asyn) (hostName : Text) (id : Int) : Option SlsDetConfig := do
  let hostnames ← splitHostnames hostName
  pure { hostnames := hostnames, id := id, asyn := asyn }

variable {orig rest : Text} {last : ℕ} {hostnames : List Text}

theorem pushToken_eq (hostnames : List Text) (token : Text) :
    pushToken hostnames token = hostnames ++ nonempty token := by
  rw [pushToken, nonempty]
  cases token with
  | nil => exact (List.append_nil hostnames).symm
  | cons c token => rfl

/-- One round of the loop takes a segment off. -/
theorem splitLoop_of_segment {token : Text} (hs : orig.drop last = token ++ '+' :: rest)
    (ht : '+' ∉ token) : splitLoop orig last hostnames =
      splitLoop orig (last + token.length + 1) (hostnames ++ nonempty token) := by
  have hfind := findFrom_of_drop hs ht
  rw [splitLoop]
  split
  case h_1 next h =>
    obtain rfl := Option.some.inj (hfind.symm.trans h)
    rw [Nat.add_sub_cancel_left, substr_of_drop hs, ← pushToken_eq]
    rfl
  case h_2 h =>
    rw [hfind] at h
    cases h

/-- **The loop, and what follows it**, from any position inside the text: the segments of the rest
are appended. -/
theorem splitLoop_spec (hostnames : List Text) (hle : last ≤ orig.length)
    (hs : orig.drop last = rest) :
    ∃ last' names token, splitLoop orig last hostnames = some (last', names) ∧
      substrFrom orig last' = some token ∧
      pushToken names token = hostnames ++ segments '+' rest := by
  induction rest using segment_induction '+' generalizing last hostnames with
  | last token ht =>
    refine ⟨last, hostnames, token, ?_, ?_, ?_⟩
    · have hfind : findFrom '+' orig last = none := findFrom_eq_none_iff.2 (hs ▸ ht)
      rw [splitLoop]
      split
      case h_1 next h =>
        rw [hfind] at h
        cases h
      case h_2 => rfl
    · rw [substrFrom, if_pos hle, hs]
    · rw [pushToken_eq, segments_of_notMem ht]
  | segment token rest ht ih =>
    -- the next round starts after the delimiter, which is still inside the text
    have hlen : orig.length - last = token.length + (rest.length + 1) := by
      rw [← List.length_drop, hs, List.length_append, List.length_cons]
    have hdrop : orig.drop (last + token.length + 1) = rest := by
      rw [Nat.add_assoc, ← List.drop_drop, hs, ← List.drop_drop, List.drop_left]
      rfl
    obtain ⟨last', names, token', hloop, hsub, hpush⟩ :=
      ih (hostnames ++ nonempty token) (by omega) hdrop
    refine ⟨last', names, token', (splitLoop_of_segment hs ht).trans hloop, hsub, ?_⟩
    rw [hpush, List.append_assoc, segments_append_cons ht]

/-- **The host names are the segments of the list.** No cut is out of range. -/
theorem splitHostnames_eq_segments (hostName : Text) :
    splitHostnames hostName = some (segments '+' hostName) := by
  have hsegments : ∃ last names token, splitLoop hostName 0 [] = some (last, names) ∧
      substrFrom hostName last = some token ∧ pushToken names token = [] ++ segments '+' hostName :=
    splitLoop_spec [] (Nat.zero_le _) rfl
  obtain ⟨last, names, token, hloop, hsub, hpush⟩ := hsegments
  rw [splitHostnames, hloop, Option.bind_eq_bind, Option.bind_some]
  dsimp only
  rw [hsub, Option.bind_eq_bind, Option.bind_some, hpush]
  rfl

/-- Every place in the list of host names is an address of the port, and the driver that is created
there is the one of that host. -/
def HostAt (cfg : SlsDetConfig) (i : ℕ) (host : Text) : Prop :=
  (∀ r, getAddress (size cfg) ⟨r, i⟩ = some i) ∧
    ∀ s, s.dets i = none → ∃ t, construct cfg i true s = .done .success t ∧
      t.dets i = some (SlsDetDriver.new host (cfg.id + i))

theorem hostAt_of_getElem? {cfg : SlsDetConfig} {i : ℕ} {host : Text}
    (h : cfg.hostnames[i]? = some host) : HostAt cfg i host := by
  obtain ⟨hlt, -⟩ := List.getElem?_eq_some_iff.1 h
  constructor
  · intro r
    have hne : ¬(i : Int) = -1 := by omega
    have hin : (0 : Int) ≤ i ∧ (i : Int) < (size cfg : ℕ) := ⟨by omega, by exact_mod_cast hlt⟩
    simp only [getAddress, if_neg hne, if_pos hin, Int.toNat_natCast]
  · intro s hs
    refine ⟨_, construct_of_none hs, ?_⟩
    have hname : cfg.hostnames.getD i [] = host := by
      rw [List.getD_eq_getElem?_getD, h, Option.getD_some]
    rw [hname]
    exact Function.update_self _ _ _

/-- **`SlsDetConfigure` recognizes exactly the lists of host names.** Every text is one: it consists
of host names and delimiters, the port gets these host names in order, none of them is empty or has
a delimiter in it, and nothing but delimiters was dropped; the address of a host is its place. And
whatever list of host names is written, with one or more delimiters between neighbours and any
number before the first and after the last, the port gets that list. -/
theorem configure_correct (asyn : Asyn) (id : Int) :
    (∀ hostName, ∃ cfg, slsDetConfigure asyn hostName id = some cfg ∧
      (∃ lead hosts, Listable '+' hosts ∧ hostName = joined '+' lead hosts ∧
        cfg.hostnames = hosts.map Prod.fst) ∧
      cfg.hostnames = segments '+' hostName ∧
      cfg.hostnames.flatten = hostName.filter (· ≠ '+') ∧
      (∀ host ∈ cfg.hostnames, host ≠ [] ∧ '+' ∉ host) ∧
      ∀ i host, cfg.hostnames[i]? = some host → HostAt cfg i host) ∧
    ∀ lead hosts, Listable '+' hosts →
      (slsDetConfigure asyn (joined '+' lead hosts) id).map SlsDetConfig.hostnames =
        some (hosts.map Prod.fst) := by
  have hconfigure : ∀ hostName, slsDetConfigure asyn hostName id =
      some { hostnames := segments '+' hostName, id := id, asyn := asyn } := by
    intro hostName
    rw [slsDetConfigure, splitHostnames_eq_segments]
    rfl
  constructor
  · intro hostName
    obtain ⟨lead, hosts, hlist, hjoined⟩ := exists_joined '+' hostName
    refine ⟨_, hconfigure hostName, ⟨lead, hosts, hlist, hjoined, ?_⟩, rfl,
      flatten_segments '+' hostName, fun host ↦ of_mem_segments, fun i host ↦ hostAt_of_getElem?⟩
    rw [hjoined]
    exact segments_joined hlist lead
  · intro lead hosts hlist
    rw [hconfigure, Option.map_some, segments_joined hlist]

/-- The documentation's own example: a delimiter at the end starts no further address. -/
example : (slsDetConfigure .plain "det-jungfrau-31+".toList 0).map SlsDetConfig.hostnames =
    some ["det-jungfrau-31".toList] := by
  rw [slsDetConfigure, splitHostnames_eq_segments]
  decide

end SlsDet
