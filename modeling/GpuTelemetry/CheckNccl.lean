import GpuTelemetry.NodelistLanguage
import GpuTelemetry.Pairings

namespace GpuTelemetry

inductive Flavor
  | single
  | pairwise
  | pairwiseQuick
  deriving DecidableEq

/-- What `get_hosts` raises: a `click.BadParameter`, or what the parser raises. -/
inductive HostsError
  | badParameter (message paramHint : Str)
  | raised (e : PyError)
  deriving DecidableEq

def tooFewHosts : HostsError :=
  .badParameter ("Need to specify at least two hosts in the hostlists when used with any of the " ++
    "pairwise options").toList "--hostlist".toList

/-- The part of `get_hosts` behind the parsing. -/
def hostTuples (flavor : Flavor) (hostnames : List Str) : Except HostsError (List (List Str)) :=
  if flavor = .single then .ok (hostnames.map fun host => [host])
  else if hostnames.length < 2 then .error tooFewHosts
  else if flavor = .pairwise then .ok ((pairsOf hostnames).map fun p => [p.1, p.2])
  else
    let hosts := (everySecond hostnames).zip (everySecond hostnames.tail)
    -- a host that is left over is paired with the first one
    .ok ((if hostnames.length % 2 = 0 then hosts else hosts ++ closingPair hostnames).map fun p => [p.1, p.2])

/-- `hostname` is what `socket.gethostname()` returns. -/
def getHosts (flavor : Flavor) (hostlist : Option Str) (hostname : Str) : Except HostsError (List (List Str)) :=
  match hostlist with
  | none => hostTuples flavor [hostname]
  | some hostlist =>
    match nodelist hostlist with
    | .error e => .error (.raised e)
    | .ok (none, unparsed) =>
      .error (.badParameter ("Invalid hostlist: \"".toList ++ unparsed ++ "\"".toList) "--hostlist".toList)
    | .ok (some parsed, _) => hostTuples flavor parsed

/-- The pairs of the flavors, and their rejection of fewer than two hosts. -/
structure PairsHosts (hostlist hostname : Str) (hosts : List Str) : Prop where
  rejects : hosts.length < 2 → getHosts .pairwise (some hostlist) hostname = .error tooFewHosts ∧
    getHosts .pairwiseQuick (some hostlist) hostname = .error tooFewHosts
  quick : 2 ≤ hosts.length → ∃ pairs : List (Str × Str),
    getHosts .pairwiseQuick (some hostlist) hostname = .ok (pairs.map fun p => [p.1, p.2]) ∧
    pairs.length = (hosts.length + 1) / 2 ∧ ProperPairs hosts pairs ∧
    ∀ host ∈ hosts, (pairMembers pairs).count host = if hosts.length % 2 = 1 ∧ hosts.head? = some host then 2 else 1
  all : 2 ≤ hosts.length → ∃ pairs : List (Str × Str),
    getHosts .pairwise (some hostlist) hostname = .ok (pairs.map fun p => [p.1, p.2]) ∧ ProperPairs hosts pairs ∧
    ∀ a ∈ hosts, ∀ b ∈ hosts, a ≠ b → pairs.countP (isPair a b) = 1

theorem getHosts_accepted {hostlist : Str} {hosts : List Str} {unparsed : Str}
    (accepted : nodelistParser hostlist = .ok (some hosts, unparsed)) (flavor : Flavor) (hostname : Str) :
    getHosts flavor (some hostlist) hostname = hostTuples flavor hosts := by
  rw [getHosts, nodelist, accepted]

/-- For every accepted host list whose hosts are distinct. -/
theorem getHosts_pairs (hostlist hostname : Str) (hosts : List Str) (unparsed : Str)
    (accepted : nodelistParser hostlist = .ok (some hosts, unparsed)) (distinct : hosts.Nodup) :
    PairsHosts hostlist hostname hosts where
  rejects few := by
    have few_tuples : ∀ flavor, flavor ≠ .single → hostTuples flavor hosts = .error tooFewHosts := by
      intro flavor several
      rw [hostTuples, if_neg several, if_pos few]
    rw [getHosts_accepted accepted, getHosts_accepted accepted]
    exact ⟨few_tuples _ nofun, few_tuples _ nofun⟩
  quick two := by
    have nonempty : hosts ≠ [] := List.ne_nil_of_length_pos (by omega)
    refine ⟨ringPairs hosts, ?_, ringPairs_length nonempty, ringPairs_proper distinct two, fun host member => ?_⟩
    · rw [getHosts_accepted accepted, hostTuples, if_neg (not_lt.mpr two)]
      rfl
    · exact ringPairs_count distinct member
  all two := by
    refine ⟨pairsOf hosts, ?_, pairsOf_proper distinct, fun a inA b inB differ => ?_⟩
    · rw [getHosts_accepted accepted, hostTuples, if_neg (not_lt.mpr two)]
      rfl
    · exact pairsOf_isPair distinct inA inB differ

/-- An odd number of hosts. -/
theorem getHosts_pairs_three : nodelistParser "n[1-3]".toList = .ok (some ["n1".toList, "n2".toList, "n3".toList], []) ∧
    PairsHosts "n[1-3]".toList [] ["n1".toList, "n2".toList, "n3".toList] := by
  have accepted : nodelistParser "n[1-3]".toList = .ok (some ["n1".toList, "n2".toList, "n3".toList], []) := by
    decide +kernel
  exact ⟨accepted, getHosts_pairs _ [] _ [] accepted (by decide)⟩

end GpuTelemetry
