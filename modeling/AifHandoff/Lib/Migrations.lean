import Mathlib.Data.List.Basic

/-!
Versioned migrations of a store, each run once and in order.

A migration is a list of statements. A statement whose error says that it was applied
already is skipped, and the others run all the same.
-/

namespace AifHandoff.Migrations

variable {σ τ ε : Type}

structure Migration (τ : Type) where
  version : Nat
  statements : List τ

/-- How statements are run: which are passed by, what they do, and which errors say that
a statement was applied already. -/
structure Engine (σ τ ε : Type) where
  skips : τ → σ → Bool
  exec : τ → σ → Except ε σ
  ignorable : ε → Bool

variable (E : Engine σ τ ε)

def runStatement (store : σ) (statement : τ) : Except ε σ :=
  if E.skips statement store then .ok store
  else match E.exec statement store with
    | .ok store => .ok store
    | .error error => if E.ignorable error then .ok store else .error error

def runStatements (statements : List τ) (store : σ) : Except ε σ :=
  statements.foldlM (runStatement E) store

def pending (migrations : List (Migration τ)) (version : Nat) : List (Migration τ) :=
  migrations.filter (version < ·.version)

/-- The statements of some migrations, in order. -/
def statementsOf (migrations : List (Migration τ)) : List τ := migrations.flatMap (·.statements)

variable {E}

theorem runStatements_nil (store : σ) : runStatements E [] store = .ok store := rfl

theorem runStatements_cons (statement : τ) (rest : List τ) (store : σ) :
    runStatements E (statement :: rest) store =
      (runStatement E store statement).bind (runStatements E rest) := by
  rw [runStatements, List.foldlM_cons]
  rfl

theorem runStatements_cons_of_ok {statement : τ} {rest : List τ} {store next : σ}
    (ran : runStatement E store statement = .ok next) :
    runStatements E (statement :: rest) store = runStatements E rest next := by
  rw [runStatements_cons, ran]
  rfl

theorem runStatements_append (first second : List τ) (store : σ) :
    runStatements E (first ++ second) store =
      (runStatements E first store).bind (runStatements E second) := by
  rw [runStatements, List.foldlM_append]
  rfl

theorem runStatement_of_ok {store store' : σ} {statement : τ} (runs : E.skips statement store = false)
    (executed : E.exec statement store = .ok store') :
    runStatement E store statement = .ok store' := by
  rw [runStatement, if_neg (by rw [runs]; exact Bool.false_ne_true), executed]

theorem runStatement_of_applied {store : σ} {statement : τ} {error : ε}
    (runs : E.skips statement store = false) (failed : E.exec statement store = .error error)
    (applied : E.ignorable error = true) : runStatement E store statement = .ok store := by
  rw [runStatement, if_neg (by rw [runs]; exact Bool.false_ne_true), failed]
  exact if_pos applied

theorem runStatement_cases {store store' : σ} {statement : τ}
    (ran : runStatement E store statement = .ok store') :
    store' = store ∨ E.exec statement store = .ok store' := by
  rw [runStatement] at ran
  split at ran
  · cases ran
    exact .inl rfl
  · split at ran
    next store'' executed =>
      cases ran
      exact .inr executed
    next error failed =>
      split at ran
      · cases ran
        exact .inl rfl
      · cases ran

theorem runStatements_changes {change : σ → σ → Prop} (same : ∀ store, change store store)
    (later : ∀ {a b c}, change a b → change b c → change a c) {statements : List τ}
    (each : ∀ statement ∈ statements, ∀ store store', E.exec statement store = .ok store' →
      change store store')
    {store store' : σ} (ran : runStatements E statements store = .ok store') :
    change store store' := by
  induction statements generalizing store with
  | nil =>
    cases ran
    exact same _
  | cons statement rest ih =>
    rw [List.forall_mem_cons] at each
    rw [runStatements_cons] at ran
    cases first : runStatement E store statement with
    | error error =>
      rw [first] at ran
      cases ran
    | ok next =>
      rw [first] at ran
      refine later ?_ (ih each.2 ran)
      rcases runStatement_cases first with rfl | executed
      · exact same _
      · exact each.1 _ _ executed

theorem pending_append (older newer : List (Migration τ)) (version : Nat) :
    pending (older ++ newer) version = pending older version ++ pending newer version :=
  List.filter_append ..

theorem pending_of_newer {migrations : List (Migration τ)} {version : Nat}
    (newer : ∀ migration ∈ migrations, version < migration.version) :
    pending migrations version = migrations :=
  List.filter_eq_self.mpr fun migration inside => decide_eq_true (newer migration inside)

theorem pending_of_older {migrations : List (Migration τ)} {version : Nat}
    (older : ∀ migration ∈ migrations, migration.version ≤ version) :
    pending migrations version = [] :=
  List.filter_eq_nil_iff.mpr fun migration inside => by
    simpa using older migration inside

theorem mem_statementsOf_pending {migrations : List (Migration τ)} {version : Nat} {statement : τ}
    (inside : statement ∈ statementsOf (pending migrations version)) :
    statement ∈ statementsOf migrations := by
  rw [statementsOf, List.mem_flatMap] at inside ⊢
  obtain ⟨migration, among, listed⟩ := inside
  exact ⟨migration, (List.mem_filter.mp among).1, listed⟩

theorem statementsOf_append (first second : List (Migration τ)) :
    statementsOf (first ++ second) = statementsOf first ++ statementsOf second :=
  List.flatMap_append

end AifHandoff.Migrations
