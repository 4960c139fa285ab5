/-
The cache and what it stands for.

Nothing can be told of the cache by the replies to operations other than the lookup itself: a text runs as if it
were compiled afresh.  What the cache holds and has counted is told by the operations before, without it: it
`Holds` the texts that compile and were run since it was last cleared, the latest first, each with its program.

* `Cache.holds_perform` — what one operation does to a cache;
* `Cache.perform_after` — what a whole history of operations does, and the next operation after it.
-/
import Mathlib.Data.List.Dedup
import Mathlib.Data.List.Induction
import Reshape.Program.Session

namespace Reshape

namespace Operation

/-- The text that an operation runs by the cache. -/
def source? : Operation → Option String
  | run _ source _ | runInPlace _ source _ => some source
  | _ => none

def isClear : Operation → Bool
  | clear => true
  | _ => false

/-- The reply to an operation where there is no cache. -/
def afresh : Operation → Reply
  | run s source event | execute s source event =>
    .outcome ((runAfresh s source event).1.map (·, (runAfresh s source event).2))
  | runInPlace s source event => .inPlace (runAfresh s source event).1 (runAfresh s source event).2
  | check source => .checked (checkSyntax source)
  | get _ => .found none
  | clear => .cleared

/-- The texts run since the last time that the cache was cleared, the latest first. -/
def recent (history : List Operation) : List String :=
  (history.reverse.takeWhile fun op => !op.isClear).filterMap source?

/-- Those of them that compile, each once. -/
def kept (history : List Operation) : List String :=
  ((recent history).filter fun source => (compile Library.standard source).toBool).dedup

theorem kept_append_clear (history : List Operation) : kept (history ++ [clear]) = [] := by
  simp [kept, recent, isClear]

theorem recent_append {history : List Operation} {op : Operation} (h : op ≠ clear) :
    recent (history ++ [op]) = op.source?.toList ++ recent history := by
  have hclear : op.isClear = false := by
    cases op with
    | clear => exact absurd rfl h
    | _ => rfl
  cases hsource : op.source? with
  | none => simp [recent, hclear, hsource]
  | some source => simp [recent, hclear, hsource]

theorem kept_append_of_none {history : List Operation} {op : Operation} (h : op ≠ clear)
    (hsource : op.source? = none) : kept (history ++ [op]) = kept history := by
  rw [kept, recent_append h, hsource]
  rfl

/-- A text that is run is kept if it compiles and is not kept already. -/
theorem kept_append_of_source {history : List Operation} {op : Operation} {source : String}
    (hsource : op.source? = some source) :
    kept (history ++ [op]) =
      if (compile Library.standard source).toBool ∧ source ∉ kept history then source :: kept history
      else kept history := by
  have hclear : op ≠ clear := by
    rintro rfl
    cases hsource
  have hmem : source ∈ kept history ↔
      source ∈ (recent history).filter fun source => (compile Library.standard source).toBool :=
    List.mem_dedup
  rw [kept, recent_append hclear, hsource, Option.toList_some, List.singleton_append, List.filter_cons]
  by_cases hcompiles : (compile Library.standard source).toBool = true
  · rw [if_pos hcompiles]
    by_cases hkept : source ∈ kept history
    · rw [List.dedup_cons_of_mem (hmem.1 hkept), if_neg (fun hnew => hnew.2 hkept)]
      rfl
    · rw [List.dedup_cons_of_notMem (fun h => hkept (hmem.2 h)), if_pos ⟨hcompiles, hkept⟩]
      rfl
  · rw [if_neg hcompiles, if_neg (fun hnew => hcompiles hnew.1)]
    rfl

end Operation

open Operation

theorem toBool_eq_true {ε α : Type} {x : Except ε α} : x.toBool = true ↔ ∃ a, x = .ok a := by
  cases x with
  | error e => simp [Except.toBool]
  | ok a => simp [Except.toBool]

theorem compile_of_mem_kept {history : List Operation} {source : String} (h : source ∈ kept history) :
    ∃ p, compile Library.standard source = .ok p := by
  rw [kept, List.mem_dedup, List.mem_filter] at h
  exact toBool_eq_true.1 h.2

namespace Cache

/-- The cache has these texts, the first the latest, each with the program that it compiles to. -/
structure Holds (c : Cache) (sources : List String) : Prop where
  keys : c.entries.map Prod.fst = sources
  programs : ∀ entry ∈ c.entries, compile Library.standard entry.1 = .ok entry.2

/-- What is found for a text: its program, if the text is held. -/
theorem Holds.find? {c : Cache} {sources : List String} (h : c.Holds sources) (source : String) :
    c.find? source = if source ∈ sources then (compile Library.standard source).toOption else none := by
  obtain ⟨rfl, hprograms⟩ := h
  rw [Cache.find?]
  generalize c.entries = entries at hprograms ⊢
  induction entries with
  | nil => rfl
  | cons entry rest ih =>
    obtain ⟨key, p⟩ := entry
    have hp : compile Library.standard key = .ok p := hprograms (key, p) List.mem_cons_self
    by_cases hkey : source = key
    · subst hkey
      rw [List.lookup_cons, beq_self_eq_true, if_pos (by simp), hp]
      rfl
    · rw [List.lookup_cons, beq_eq_false_iff_ne.2 hkey]
      have hmem : source ∈ ((key, p) :: rest).map Prod.fst ↔ source ∈ rest.map Prod.fst := by
        simp [hkey]
      dsimp only
      rw [ih fun e he => hprograms e (List.mem_cons_of_mem _ he)]
      exact if_congr hmem.symm rfl rfl

/-- A held text is found. -/
theorem Holds.find?_of_mem {c : Cache} {sources : List String} (h : c.Holds sources) {source : String}
    (hmem : source ∈ sources) : ∃ p, compile Library.standard source = .ok p ∧ c.find? source = some p := by
  obtain ⟨rfl, hprograms⟩ := h
  obtain ⟨⟨key, p⟩, hentry, rfl⟩ := List.mem_map.1 hmem
  have hp := hprograms _ hentry
  refine ⟨p, hp, ?_⟩
  rw [Holds.find? ⟨rfl, hprograms⟩, if_pos hmem, hp]
  rfl

theorem run_fst (c : Cache) (s : Surroundings) (source : String) (event : Value)
    (h : (c.fetch source).1 = compile Library.standard source) :
    ((c.run s source event).1, (c.run s source event).2.1) = runAfresh s source event := by
  rw [run, runAfresh, ← h]
  rcases c.fetch source with ⟨ds | p, c'⟩
  · rfl
  · rfl

theorem run_cache (c : Cache) (s : Surroundings) (source : String) (event : Value) :
    (c.run s source event).2.2 = (c.fetch source).2 := by
  rw [run]
  rcases c.fetch source with ⟨ds | p, c'⟩
  · rfl
  · rfl

section Fetch

variable {c : Cache} {sources : List String} (h : c.Holds sources) {source : String}

include h

theorem fetch_of_mem (hmem : source ∈ sources) :
    c.fetch source = (compile Library.standard source, { c with hits := c.hits + 1 }) := by
  obtain ⟨p, hp, hfind⟩ := h.find?_of_mem hmem
  rw [fetch, hfind, hp]

theorem fetch_of_not_mem (hmem : source ∉ sources) :
    (c.fetch source).1 = compile Library.standard source ∧
      (c.fetch source).2.hits = c.hits ∧ (c.fetch source).2.misses = c.misses + 1 := by
  have hfind : c.find? source = none := by rw [h.find?, if_neg hmem]
  rw [fetch, hfind]
  dsimp only
  cases compile Library.standard source with
  | ok p => simp
  | error ds => simp

/-- What a run is given is what the text compiles to. -/
theorem fst_fetch (source : String) : (c.fetch source).1 = compile Library.standard source := by
  by_cases hmem : source ∈ sources
  · rw [fetch_of_mem h hmem]
  · exact (fetch_of_not_mem h hmem).1

/-- A text that compiles is held afterwards. -/
theorem holds_fetch :
    (c.fetch source).2.Holds
      (if (compile Library.standard source).toBool ∧ source ∉ sources then source :: sources else sources) := by
  by_cases hmem : source ∈ sources
  · rw [fetch_of_mem h hmem, if_neg (fun hnew => hnew.2 hmem)]
    exact ⟨h.keys, h.programs⟩
  · have hfind : c.find? source = none := by rw [h.find?, if_neg hmem]
    rw [fetch, hfind]
    dsimp only
    cases hcompile : compile Library.standard source with
    | ok p =>
      rw [if_pos ⟨rfl, hmem⟩]
      refine ⟨by simp [h.keys], fun entry hentry => ?_⟩
      rcases List.mem_cons.1 hentry with rfl | hentry
      · exact hcompile
      · exact h.programs entry hentry
    | error ds =>
      rw [if_neg (fun hnew => by cases hnew.1)]
      exact ⟨h.keys, h.programs⟩

end Fetch

/-- An operation that runs a text changes the cache as fetching the text does. -/
theorem perform_of_source {op : Operation} {source : String} (hsource : op.source? = some source) (c : Cache) :
    (c.perform op).2 = (c.fetch source).2 := by
  cases op with
  | run s source' event | runInPlace s source' event =>
    obtain rfl : source' = source := by simpa [Operation.source?] using hsource
    exact c.run_cache s source' event
  | _ => cases hsource

/-- Any other operation but one leaves the cache as it is. -/
theorem perform_of_none {op : Operation} (hsource : op.source? = none) (hclear : op ≠ .clear) (c : Cache) :
    (c.perform op).2 = c := by
  cases op with
  | execute s source event | check source | get source => rfl
  | clear => exact absurd rfl hclear
  | _ => cases hsource

theorem perform_fst {c : Cache} {sources : List String} (h : c.Holds sources) {op : Operation}
    (hget : ∀ source, op ≠ .get source) : (c.perform op).1 = op.afresh := by
  cases op with
  | run s source event | runInPlace s source event =>
    have hrun := c.run_fst s source event (fst_fetch h source)
    rw [Operation.afresh, ← hrun]
    rfl
  | get source => exact absurd rfl (hget source)
  | _ => rfl

/-- What an operation does to what a cache holds. -/
theorem holds_perform {history : List Operation} {c : Cache} (h : c.Holds (kept history)) (op : Operation) :
    (c.perform op).2.Holds (kept (history ++ [op])) := by
  cases hsource : op.source? with
  | some source =>
    rw [perform_of_source hsource, kept_append_of_source hsource]
    exact holds_fetch h
  | none =>
    by_cases hclear : op = .clear
    · subst hclear
      rw [kept_append_clear]
      exact ⟨rfl, by simp [perform, clear]⟩
    · rw [perform_of_none hsource hclear, kept_append_of_none hclear hsource]
      exact h

theorem after_append (history : List Operation) (op : Operation) :
    after (history ++ [op]) = ((after history).perform op).2 := by
  simp [after]

/-- What a cache holds is told by the operations so far. -/
theorem holds_after (history : List Operation) : (after history).Holds (kept history) := by
  induction history using List.reverseRecOn with
  | nil => exact ⟨rfl, by simp [after]⟩
  | append_singleton history op ih =>
    rw [after_append]
    exact holds_perform ih op

/-- Running a text counts as a hit if the text is held, and as a miss if it is not. -/
theorem counters_perform {c : Cache} {sources : List String} (h : c.Holds sources) {op : Operation}
    {source : String} (hsource : op.source? = some source) :
    (c.perform op).2.hits = c.hits + (if source ∈ sources then 1 else 0) ∧
      (c.perform op).2.misses = c.misses + (if source ∈ sources then 0 else 1) := by
  rw [perform_of_source hsource]
  by_cases hmem : source ∈ sources
  · rw [fetch_of_mem h hmem, if_pos hmem, if_pos hmem]
    exact ⟨rfl, rfl⟩
  · obtain ⟨-, hhits, hmisses⟩ := fetch_of_not_mem h hmem
    rw [if_neg hmem, if_neg hmem]
    exact ⟨hhits, hmisses⟩

/-- Each run of a text has been counted once. -/
theorem hits_add_misses_after (history : List Operation) :
    (after history).hits + (after history).misses = (history.filterMap Operation.source?).length := by
  induction history using List.reverseRecOn with
  | nil => rfl
  | append_singleton history op ih =>
    rw [after_append, List.filterMap_append, List.length_append, ← ih]
    cases hsource : op.source? with
    | some source =>
      obtain ⟨hhits, hmisses⟩ := counters_perform (holds_after history) hsource
      rw [hhits, hmisses]
      by_cases hmem : source ∈ kept history
      · simp [hmem, hsource]
        omega
      · simp [hmem, hsource]
        omega
    | none =>
      have hsame : ((after history).perform op).2.hits = (after history).hits ∧
          ((after history).perform op).2.misses = (after history).misses := by
        by_cases hclear : op = .clear
        · subst hclear
          exact ⟨rfl, rfl⟩
        · rw [perform_of_none hsource hclear]
          exact ⟨rfl, rfl⟩
      simp [hsame.1, hsame.2, hsource]

/-- The cache is not seen.  After any operations it holds, each with the program that it compiles to, the texts
that compile and were run since it was last cleared, and no others; and each run has been counted once.  Whatever
is asked next gets the reply that it gets without a cache, but for the lookup, which finds the program of a text
that is held.  A run is a hit exactly if its text is held; a text that does not compile is not held, and leaves
the event as it is; operations that run nothing change nothing, but for `clear`, which takes the entries and
leaves the counters. -/
theorem perform_after (history : List Operation) :
    let c := after history
    c.entries.map Prod.fst = kept history ∧
      (∀ entry ∈ c.entries, compile Library.standard entry.1 = .ok entry.2) ∧
      c.size = (kept history).length ∧
      c.hits + c.misses = (history.filterMap Operation.source?).length ∧
      (∀ op, (∀ source, op ≠ .get source) → (c.perform op).1 = op.afresh) ∧
      (∀ source, (c.perform (.get source)).1 =
        .found (if source ∈ kept history then (compile Library.standard source).toOption else none)) ∧
      (∀ op source, op.source? = some source →
        (c.perform op).2.hits = c.hits + (if source ∈ kept history then 1 else 0) ∧
          (c.perform op).2.misses = c.misses + (if source ∈ kept history then 0 else 1)) ∧
      (∀ source ds, compile Library.standard source = .error ds → source ∉ kept history ∧
        ∀ s event, c.perform (.runInPlace s source event) =
          (.inPlace (.error (.compile ds)) event, { c with misses := c.misses + 1 })) ∧
      (∀ op, op.source? = none → op ≠ .clear → (c.perform op).2 = c) ∧
      (c.perform .clear).2 = { c with entries := [] } := by
  intro c
  have hc : c.Holds (kept history) := holds_after history
  refine ⟨hc.keys, hc.programs, ?_, hits_add_misses_after history, fun op hget => perform_fst hc hget, ?_,
    fun op source hsource => counters_perform hc hsource, ?_,
    fun op hsource hclear => perform_of_none hsource hclear c, rfl⟩
  · rw [size, ← hc.keys, List.length_map]
  · intro source
    rw [← hc.find? source]
    rfl
  · intro source ds herror
    have hmem : source ∉ kept history := by
      intro hmem
      obtain ⟨p, hp⟩ := compile_of_mem_kept hmem
      rw [herror] at hp
      cases hp
    refine ⟨hmem, fun s event => ?_⟩
    have hfind : c.find? source = none := by rw [hc.find?, if_neg hmem]
    rw [perform, run, fetch, hfind]
    simp only [herror]

end Cache

end Reshape
