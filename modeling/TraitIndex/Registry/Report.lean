import TraitIndex.Value.Fault

/-!
What merging has done: the outcome of one fragment, the running counters, and
whether enough fragments have come.

A registry counts upwards from nothing, but reports that others have made are
taken as they are, and may take something back.
-/

namespace TraitIndex

structure MergeReport where
  source : String
  added : Int
  duplicates : Int
  dropped : Int
  rejected : Bool
  deriving DecidableEq, Repr, Inhabited

namespace MergeReport

def total (report : MergeReport) : Int :=
  report.added + report.duplicates + report.dropped

def rejection : MergeReport := ⟨"", 0, 0, 0, true⟩

end MergeReport

/-- Counters over all payloads merged so far.  The sources are distinct and kept
in the order in which they first came. -/
structure RegistryStats where
  fragmentsMerged : Nat
  fragmentsRejected : Nat
  records : Int
  duplicates : Int
  dropped : Int
  sources : List String
  deriving DecidableEq, Repr, Inhabited

namespace RegistryStats

def empty : RegistryStats := ⟨0, 0, 0, 0, 0, []⟩

def distinctSources (stats : RegistryStats) : Nat :=
  stats.sources.length

/-- The sources with one more; the empty one names nothing. -/
def addSource (sources : List String) (source : String) : List String :=
  if source = "" || sources.contains source then sources
  else sources ++ [source]

theorem mem_addSource {sources : List String} {source other : String} :
    other ∈ addSource sources source ↔
      other ∈ sources ∨ (other = source ∧ source ≠ "") := by
  by_cases h : source = ""
  · simp [addSource, h]
  · by_cases hs : source ∈ sources
    · simp only [addSource, h, hs, List.contains_iff_mem, decide_false,
        Bool.false_or, if_true]
      exact ⟨.inl, fun ho => ho.elim id fun e => e.1 ▸ hs⟩
    · simp [addSource, h, hs]

theorem addSource_of_mem {sources : List String} {source : String}
    (h : source ∈ sources) :
    addSource sources source = sources := by
  simp [addSource, h]

theorem nodup_addSource {sources : List String} (h : sources.Nodup)
    (source : String) :
    (addSource sources source).Nodup := by
  unfold addSource
  split
  · exact h
  · next hs =>
      rw [List.nodup_append]
      refine ⟨h, by simp, ?_⟩
      intro a ha b hb e
      rw [List.mem_singleton] at hb
      exact hs (by simp [← hb, ← e, ha])

def absorb (stats : RegistryStats) (report : MergeReport) : RegistryStats :=
  if report.rejected then
    { stats with fragmentsRejected := stats.fragmentsRejected + 1 }
  else
    { stats with
      fragmentsMerged := stats.fragmentsMerged + 1
      records := stats.records + report.added
      duplicates := stats.duplicates + report.duplicates
      dropped := stats.dropped + report.dropped
      sources := addSource stats.sources report.source }

def sortedSources (stats : RegistryStats) : List String :=
  stats.sources.mergeSort fun a b => decide (a ≤ b)

end RegistryStats

structure Readiness where
  received : Int
  expected : Option Int
  deriving DecidableEq, Repr, Inhabited

namespace Readiness

def isReady (readiness : Readiness) : Bool :=
  match readiness.expected with
  | some expected => expected ≤ readiness.received
  | none => false

def missing (readiness : Readiness) : Option Int :=
  readiness.expected.map fun expected => max (expected - readiness.received) 0

def summary (readiness : Readiness) : Except ValueFault String := do
  let received ← (Value.int readiness.received).printed
  match readiness.expected with
  | none =>
      return received ++
        " fragment source(s) merged, no expected count configured"
  | some expected =>
      let missing ← (Value.int (max (expected - readiness.received) 0)).printed
      let wanted ← (Value.int expected).printed
      let status := if readiness.isReady then "ready"
        else "waiting on " ++ missing
      return received ++ "/" ++ wanted ++ " fragment source(s) merged (" ++
        status ++ ")"

end Readiness

end TraitIndex
