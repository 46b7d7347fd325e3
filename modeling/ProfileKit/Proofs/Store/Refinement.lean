import ProfileKit.Proofs.Store.Directory

/-!
# A directory is as good as memory

Whoever only calls a store cannot tell a directory from a table in memory: over an empty directory that nobody
else writes to, every sequence of calls is answered as it is by an empty store in memory
(`DirectoryStore.answers_eq_memoryStore`). One call is `Mirrors.call`; the sequence is an induction over it.
-/

namespace ProfileKit

/-- A call of a store. -/
inductive StoreCall where
  | list (k : Kind)
  | load (k : Kind) (id : String)
  | save (k : Kind) (id text : String) (overwrite : Bool)
  | delete (k : Kind) (id : String)
deriving DecidableEq, Repr

/-- The id in a call is valid, if it has one. -/
def StoreCall.hasValidId : StoreCall → Bool
  | .list _ => true
  | .load _ id | .save _ id _ _ | .delete _ id => Id.isValid id

/-- What a call that succeeds answers. -/
inductive StoreAnswer where
  | listed (summaries : List Summary)
  | loaded (profile : StoredProfile)
  | saved (warnings : List String)
  | deleted
deriving DecidableEq, Repr

namespace Store

variable {σ : Type}

/-- The answer of an action, and the state after it. -/
def outcome {α : Type} (a : Action σ α) (answer : α → StoreAnswer) (x : σ) :
    Except ProfileError StoreAnswer × σ :=
  ((a.eval x).1.map answer, (a.eval x).2)

/-- The answer to a call, and the state after it. -/
def call (st : Store σ) : StoreCall → σ → Except ProfileError StoreAnswer × σ
  | .list k => outcome (st.list k) .listed
  | .load k id => outcome (st.load k id) .loaded
  | .save k id text overwrite => outcome (st.save k id text overwrite) .saved
  | .delete k id => outcome (st.delete k id) fun _ => .deleted

/-- The answers to a sequence of calls. -/
def answers (st : Store σ) : List StoreCall → σ → List (Except ProfileError StoreAnswer)
  | [], _ => []
  | c :: cs, x => (st.call c x).1 :: answers st cs (st.call c x).2

end Store

namespace DirectoryStore

variable {d : DirectoryStore} {r : FilePath} {t : FileTree} {s : MemoryStore}

/-- A call is answered the same by the directory and in memory, and what they hold stays the same. -/
theorem Mirrors.call (hd : d.PlainExtension) (h : Mirrors d r t s) {c : StoreCall} (hc : c.hasValidId = true) :
    (d.store.call c t).1 = (MemoryStore.store.call c s).1 ∧
      Mirrors d r (d.store.call c t).2 (MemoryStore.store.call c s).2 := by
  cases c with
  | list k =>
    have hlist : (d.store.list k).eval t = (.ok (MemoryStore.list k s), t) := congrArg (·, t) (h.list hd k)
    simp only [Store.call, Store.outcome, hlist, MemoryStore.eval_list]
    exact ⟨trivial, h⟩
  | load k id =>
    have hload : (d.store.load k id).eval t = (MemoryStore.load k id s, t) := congrArg (·, t) (h.load hd k hc)
    simp only [Store.call, Store.outcome, hload, MemoryStore.eval_load]
    exact ⟨trivial, h⟩
  | save k id text overwrite =>
    obtain ⟨t', hsave, h'⟩ := h.save hd k hc text overwrite
    have heval : (d.store.save k id text overwrite).eval t = _ := hsave
    simp only [Store.call, Store.outcome, heval, MemoryStore.eval_save]
    exact ⟨trivial, h'⟩
  | delete k id =>
    obtain ⟨t', hdelete, h'⟩ := h.delete hd k hc
    have heval : (d.store.delete k id).eval t = _ := hdelete
    simp only [Store.call, Store.outcome, heval, MemoryStore.eval_delete]
    exact ⟨trivial, h'⟩

theorem Mirrors.answers (hd : d.PlainExtension) (h : Mirrors d r t s) {calls : List StoreCall}
    (hvalid : ∀ c ∈ calls, c.hasValidId = true) :
    d.store.answers calls t = MemoryStore.store.answers calls s := by
  induction calls generalizing t s with
  | nil => rfl
  | cons c cs ih =>
    obtain ⟨hanswer, h'⟩ := h.call hd (hvalid c (by simp))
    rw [Store.answers, Store.answers, hanswer, ih h' fun c hc => hvalid c (List.mem_cons_of_mem _ hc)]

/-- The store over an empty directory answers every sequence of calls as an empty store in memory does. -/
theorem answers_eq_memoryStore {root r : FilePath} {t : FileTree} (hs : Table.Sorted t) (hroot : t.Leads root r)
    (hempty : ∀ q, q ≠ [] → t.get? (r ++ q) = none) {calls : List StoreCall}
    (hvalid : ∀ c ∈ calls, c.hasValidId = true) :
    (DirectoryStore.mk root "yaml").store.answers calls t = MemoryStore.store.answers calls [] := by
  have hplain : (DirectoryStore.mk root "yaml").PlainExtension := ⟨by simp, by simp⟩
  exact (mirrors_nil hs hroot hempty).answers hplain hvalid

/-- A root behind a link, and nothing in it. -/
def linkedRoot : FileTree :=
  [(["data"], .directory), (["data", "profiles"], .directory), (["home"], .link "data/profiles")]

/-- Two prompts whose ids look like names of files, one of them saved twice. -/
def promptCalls : List StoreCall :=
  [.list .prompt, .save .prompt "b.yaml" "id: b.yaml\nname: B\n" false, .save .prompt "a-1.x" "name: A\n" false,
    .save .prompt "b.yaml" "name: C\n" false, .list .prompt, .delete .prompt "a-1.x", .load .prompt "a-1.x"]

theorem answers_eq_memoryStore_promptCalls :
    (DirectoryStore.mk ["home"] "yaml").store.answers promptCalls linkedRoot =
        MemoryStore.store.answers promptCalls [] ∧
      MemoryStore.store.answers promptCalls [] =
        [.ok (.listed []), .ok (.saved []), .ok (.saved []), .error (.conflict "prompt:b.yaml"),
          .ok (.listed [⟨"a-1.x", some "A"⟩, ⟨"b.yaml", some "B"⟩]), .ok .deleted,
          .error (.notFound "prompt:a-1.x")] := by
  have hs : Table.Sorted linkedRoot := by unfold Table.Sorted; decide
  have hroot : linkedRoot.Leads ["home"] ["data", "profiles"] := by unfold FileTree.Leads; decide +kernel
  have hempty (q : FilePath) (hq : q ≠ []) : linkedRoot.get? (["data", "profiles"] ++ q) = none := by
    simp [linkedRoot, Table.get?, hq]
  have hvalid : ∀ c ∈ promptCalls, c.hasValidId = true := by decide
  exact ⟨answers_eq_memoryStore hs hroot hempty hvalid, by decide +kernel⟩

end DirectoryStore
end ProfileKit
