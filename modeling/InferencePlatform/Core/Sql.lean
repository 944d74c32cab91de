/-
Tables with primary keys, and a connection with implicit transactions.

A `Schema` names its tables and gives each its rows, its primary key and the rows whose values can be bound. A `Table`
is a list of rows with distinct keys, so no table with two rows of one key can be built. `Statement` has the three ways
a row is written: INSERT, INSERT OR REPLACE and DELETE.

A `Connection` keeps what is committed and what its own statements see. The first write after a commit opens a
transaction; `commit` ends it, and a rollback, or closing the connection, drops it. An `Operation` is a list of
commands, any of which may raise; one with a handler rolls back when that happens.

- `perform_cases`: what an operation does to a connection, the rows outside its footprint left alone (`Agree`);
- `perform_atomic`: one that commits, and rolls back if anything raises, does all of it or nothing;
- `perform_untouched`, `perform_replace`: what it does to a table that it does not write, or replaces one row of;
- `perform_returns`: what it has done when it returns;
- `Does.of_part`: what its commands make of one table comes from the part of them that writes it;
- `run_survives`: what an operation leaves at an address is there when the database is opened again, if a commit follows
  before a rollback and no later operation writes the address;
- `run_lost`: if no commit follows before a rollback, the operation has left nothing.
-/
import Mathlib.Tactic
import InferencePlatform.Core.Runs

namespace InferencePlatform.Core.Sql

/-! ## Tables -/

@[ext] structure Table {ρ κ : Type} (key : ρ → κ) where
  rows : List ρ
  nodup : (rows.map key).Nodup

namespace Table

variable {ρ κ : Type} {key : ρ → κ} [DecidableEq κ]

def empty : Table key := ⟨[], List.nodup_nil⟩

def row? (T : Table key) (k : κ) : Option ρ := T.rows.find? fun row => key row = k

/-- DELETE .. WHERE -/
def deleteWhere (T : Table key) (p : ρ → Bool) : Table key :=
  ⟨T.rows.filter fun row => !p row, T.nodup.sublist (List.filter_sublist.map key)⟩

omit [DecidableEq κ] in
theorem nodup_append {T : Table key} {row : ρ} (h : ∀ x ∈ T.rows, key x ≠ key row) :
    ((T.rows ++ [row]).map key).Nodup := by
  rw [List.map_append, List.nodup_append]
  refine ⟨T.nodup, List.nodup_singleton _, ?_⟩
  intro k hk k' hk'
  obtain ⟨x, hx, rfl⟩ := List.mem_map.1 hk
  rw [List.map_singleton, List.mem_singleton] at hk'
  rw [hk']
  exact h x hx

/-- INSERT, of a row whose key is not taken -/
def insert (T : Table key) (row : ρ) (h : ∀ x ∈ T.rows, key x ≠ key row) : Table key :=
  ⟨T.rows ++ [row], nodup_append h⟩

theorem ne_of_mem_deleteWhere {T : Table key} {k : κ} : ∀ x ∈ (T.deleteWhere fun x => key x = k).rows, key x ≠ k := by
  intro x hx
  simpa [deleteWhere] using (List.mem_filter.1 hx).2

/-- INSERT OR REPLACE -/
def replace (T : Table key) (row : ρ) : Table key :=
  (T.deleteWhere fun x => key x = key row).insert row ne_of_mem_deleteWhere

theorem rows_replace (T : Table key) (row : ρ) :
    (T.replace row).rows = (T.rows.filter fun x => key x ≠ key row) ++ [row] := by
  have hkept : (T.rows.filter fun x => !decide (key x = key row)) = T.rows.filter fun x => key x ≠ key row :=
    List.filter_congr fun x _ => by simp
  rw [← hkept]
  rfl

/-- rows with new keys are appended -/
theorem rows_foldl_replace {T : Table key} {rows : List ρ} (h : ((T.rows ++ rows).map key).Nodup) :
    (rows.foldl replace T).rows = T.rows ++ rows := by
  induction rows generalizing T with
  | nil => exact (List.append_nil T.rows).symm
  | cons row rows ih =>
    have hnew : T.rows.filter (fun x => key x ≠ key row) = T.rows := by
      refine List.filter_eq_self.2 fun x hx => ?_
      rw [List.map_append, List.nodup_append] at h
      simpa using h.2.2 (key x) (List.mem_map_of_mem hx) (key row) (by simp)
    have hfirst : (T.replace row).rows = T.rows ++ [row] := by rw [rows_replace, hnew]
    have hrest : (((T.replace row).rows ++ rows).map key).Nodup := by
      rw [hfirst, List.append_assoc, List.singleton_append]
      exact h
    rw [List.foldl_cons, ih hrest, hfirst, List.append_assoc, List.singleton_append]

/-! ### Lookup -/

@[simp] theorem row?_empty (k : κ) : (empty : Table key).row? k = none := rfl

theorem row?_eq_some {T : Table key} {k : κ} {row : ρ} : T.row? k = some row ↔ row ∈ T.rows ∧ key row = k := by
  constructor
  · intro h
    exact ⟨List.mem_of_find?_eq_some h, by simpa using List.find?_some h⟩
  · rintro ⟨hmem, rfl⟩
    cases hfind : T.row? (key row) with
    | none =>
      have hne := List.find?_eq_none.1 hfind row hmem
      simp at hne
    | some x =>
      have hkey : key x = key row := by simpa using List.find?_some hfind
      rw [List.inj_on_of_nodup_map T.nodup (List.mem_of_find?_eq_some hfind) hmem hkey]

theorem row?_deleteWhere (T : Table key) (p : ρ → Bool) (k : κ) :
    (T.deleteWhere p).row? k = (T.row? k).filter fun row => !p row := by
  ext row
  rw [row?_eq_some, Option.filter_eq_some_iff, row?_eq_some, deleteWhere, List.mem_filter]
  exact and_right_comm

theorem row?_insert (T : Table key) {row : ρ} (h : ∀ x ∈ T.rows, key x ≠ key row) (k : κ) :
    (T.insert row h).row? k = if k = key row then some row else T.row? k := by
  unfold row? insert
  rw [List.find?_append]
  split_ifs with hk
  · have hnone : (T.rows.find? fun x => key x = k) = none := by
      rw [List.find?_eq_none]
      intro x hx
      simpa [hk] using h x hx
    rw [hnone, Option.none_or, List.find?_singleton, if_pos (by simp [hk])]
  · rw [List.find?_singleton, if_neg (by simp [Ne.symm hk]), Option.or_none]

theorem row?_replace (T : Table key) (row : ρ) (k : κ) :
    (T.replace row).row? k = if k = key row then some row else T.row? k := by
  rw [replace, row?_insert]
  split_ifs with hk
  · rfl
  · rw [row?_deleteWhere]
    cases hrow : T.row? k with
    | none => rfl
    | some x =>
      have hx : key x ≠ key row := fun hkey => hk ((row?_eq_some.1 hrow).2.symm.trans hkey)
      rw [Option.filter_some, if_pos (by simpa using hx)]

end Table

/-! ## Statements -/

structure Schema where
  Name : Type
  Key : Name → Type
  Row : Name → Type
  key : (t : Name) → Row t → Key t
  /-- whether the values of a row are of types that a statement can bind -/
  bindable : (t : Name) → Row t → Bool
  decName : DecidableEq Name
  decKey : (t : Name) → DecidableEq (Key t)

attribute [instance] Schema.decName Schema.decKey

variable {S : Schema}

abbrev Database (S : Schema) := (t : S.Name) → Table (S.key t)

/-- a table and a primary key -/
abbrev Address (S : Schema) := (t : S.Name) × S.Key t

namespace Database

def empty : Database S := fun _ => .empty

def row? (db : Database S) (a : Address S) : Option (S.Row a.1) := (db a.1).row? a.2

def set (db : Database S) (t : S.Name) (T : Table (S.key t)) : Database S := Function.update db t T

@[simp] theorem set_self (db : Database S) (t : S.Name) (T : Table (S.key t)) : db.set t T t = T := by
  rw [set, Function.update_self]

theorem set_ne (db : Database S) {t t' : S.Name} (T : Table (S.key t)) (h : t' ≠ t) : db.set t T t' = db t' := by
  rw [set, Function.update_of_ne h]

end Database

inductive Statement (S : Schema)
  | insert (t : S.Name) (row : S.Row t)
  | replace (t : S.Name) (row : S.Row t)
  | delete (t : S.Name) (p : S.Row t → Bool)

namespace Statement

/-- `none` where the statement raises: a value that cannot be bound, or a key that is taken -/
def exec : Statement S → Database S → Option (Database S)
  | .insert t row, db =>
    if S.bindable t row then
      if h : ∀ x ∈ (db t).rows, S.key t x ≠ S.key t row then some (db.set t ((db t).insert row h)) else none
    else none
  | .replace t row, db => if S.bindable t row then some (db.set t ((db t).replace row)) else none
  | .delete t p, db => some (db.set t ((db t).deleteWhere p))

/-- the statement writes the row at an address when this is what the address holds -/
inductive Writes : Statement S → (a : Address S) → Option (S.Row a.1) → Prop
  | insert (t : S.Name) (row : S.Row t) (x : Option (S.Row t)) : Writes (.insert t row) ⟨t, S.key t row⟩ x
  | replace (t : S.Name) (row : S.Row t) (x : Option (S.Row t)) : Writes (.replace t row) ⟨t, S.key t row⟩ x
  | delete (t : S.Name) (p : S.Row t → Bool) (k : S.Key t) (row : S.Row t) (h : p row = true) :
      Writes (.delete t p) ⟨t, k⟩ (some row)

theorem exec_frame {s : Statement S} {db db' : Database S} (h : s.exec db = some db') {a : Address S}
    (ha : ¬s.Writes a (db.row? a)) : db'.row? a = db.row? a := by
  obtain ⟨t', k⟩ := a
  cases s with
  | insert t row =>
    simp only [exec] at h
    split_ifs at h with hbind hfree
    obtain rfl := Option.some.inj h
    by_cases ht : t' = t
    · subst ht
      have hk : k ≠ S.key t' row := by
        rintro rfl
        exact ha (.insert t' row _)
      rw [Database.row?, Database.set_self, Table.row?_insert, if_neg hk]
      rfl
    · rw [Database.row?, Database.set_ne db _ ht]
      rfl
  | replace t row =>
    simp only [exec] at h
    split_ifs at h with hbind
    obtain rfl := Option.some.inj h
    by_cases ht : t' = t
    · subst ht
      have hk : k ≠ S.key t' row := by
        rintro rfl
        exact ha (.replace t' row _)
      rw [Database.row?, Database.set_self, Table.row?_replace, if_neg hk]
      rfl
    · rw [Database.row?, Database.set_ne db _ ht]
      rfl
  | delete t p =>
    obtain rfl := Option.some.inj h
    by_cases ht : t' = t
    · subst ht
      rw [Database.row?, Database.set_self, Table.row?_deleteWhere]
      cases hrow : (db t').row? k with
      | none => exact hrow.symm
      | some row =>
        have hp : ¬p row = true := by
          intro hp
          refine ha ?_
          rw [Database.row?, hrow]
          exact .delete t' p k row hp
        rw [Option.filter_some, if_pos (by simpa using hp)]
        exact hrow.symm
    · rw [Database.row?, Database.set_ne db _ ht]
      rfl

end Statement

/-! ## Operations -/

inductive Command (S : Schema)
  | execute (s : Statement S)
  /-- code outside the database, which may raise as well: a value is encoded, an event written -/
  | effect

def Command.exec : Command S → Database S → Option (Database S)
  | .execute s, db => s.exec db
  | .effect, db => some db

/-- the commands in their order, up to the first that raises; something outside the database raises once `fault`
commands are done. An error carries what the commands before it have written. -/
def runCommands : List (Command S) → Option ℕ → Database S → Except (Database S) (Database S × Option ℕ)
  | [], fault, db => .ok (db, fault)
  | command :: rest, fault, db =>
    if fault = some 0 then .error db
    else
      match command.exec db with
      | none => .error db
      | some db' => runCommands rest (fault.map Nat.pred) db'

structure Operation (S : Schema) where
  body : List (Command S)
  /-- ends with a commit -/
  commits : Bool := false
  /-- rolls back when anything raises, the commit included, and raises it again -/
  rollsBack : Bool := false

/-- the operation writes the row at an address when this is what the address holds -/
def Operation.Writes (op : Operation S) (a : Address S) (x : Option (S.Row a.1)) : Prop :=
  ∃ s, .execute s ∈ op.body ∧ s.Writes a x

structure Connection (S : Schema) where
  committed : Database S
  working : Database S

namespace Connection

def opened (db : Database S) : Connection S := ⟨db, db⟩

/-- closing the connection and opening the database again -/
def reopened (c : Connection S) : Connection S := opened c.committed

/-- the operation has raised after writing what is in `db` -/
def raised (c : Connection S) (op : Operation S) (db : Database S) : Connection S :=
  { c with working := if op.rollsBack then c.committed else db }

/-- the flag says whether the operation returns -/
def perform (c : Connection S) (op : Operation S) (fault : Option ℕ) : Connection S × Bool :=
  match runCommands op.body fault c.working with
  | .error db => (c.raised op db, false)
  | .ok (db, fault) =>
    if op.commits then if fault = some 0 then (c.raised op db, false) else (opened db, true)
    else ({ c with working := db }, true)

def step (c : Connection S) (o : Operation S × Option ℕ) : Connection S := (c.perform o.1 o.2).1

def Returns (c : Connection S) (o : Operation S × Option ℕ) : Prop := (c.perform o.1 o.2).2 = true

end Connection

/-! ### What an operation does -/

/-- the databases have the same row at every address that the operation does not write -/
def Agree (op : Operation S) (db db' : Database S) : Prop :=
  ∀ a, ¬op.Writes a (db.row? a) → db'.row? a = db.row? a

theorem runCommands_frame (commands : List (Command S)) {a : Address S} (fault : Option ℕ) (db : Database S)
    (ha : ∀ s, .execute s ∈ commands → ¬s.Writes a (db.row? a)) :
    match runCommands commands fault db with
    | .error db' => db'.row? a = db.row? a
    | .ok (db', _) => db'.row? a = db.row? a := by
  induction commands generalizing fault db with
  | nil => rfl
  | cons command rest ih =>
    unfold runCommands
    by_cases hfault : fault = some 0
    · rw [if_pos hfault]
    · rw [if_neg hfault]
      cases hexec : command.exec db with
      | none => rfl
      | some db' =>
        have hrow : db'.row? a = db.row? a := by
          cases command with
          | execute s => exact s.exec_frame hexec (ha s List.mem_cons_self)
          | effect =>
            obtain rfl := Option.some.inj hexec
            rfl
        have hrest : ∀ s, .execute s ∈ rest → ¬s.Writes a (db'.row? a) := by
          intro s hs
          rw [hrow]
          exact ha s (List.mem_cons_of_mem _ hs)
        have hrun := ih (fault.map Nat.pred) db' hrest
        rw [hrow] at hrun
        exact hrun

/-- an operation commits what it has written, leaves it uncommitted, has it rolled back, or raises in the middle -/
inductive Outcome (c : Connection S) (op : Operation S) : Connection S × Bool → Prop
  | committed (db : Database S) (hcommits : op.commits = true) (hagree : Agree op c.working db) :
      Outcome c op (.opened db, true)
  | pending (db : Database S) (hcommits : op.commits = false) (hagree : Agree op c.working db) :
      Outcome c op ({ c with working := db }, true)
  | rolledBack (hrollsBack : op.rollsBack = true) : Outcome c op (c.reopened, false)
  | left (db : Database S) (hrollsBack : op.rollsBack = false) (hagree : Agree op c.working db) :
      Outcome c op ({ c with working := db }, false)

theorem raised_cases (c : Connection S) {op : Operation S} {db : Database S} (h : Agree op c.working db) :
    Outcome c op (c.raised op db, false) := by
  unfold Connection.raised
  cases hrollsBack : op.rollsBack with
  | true => exact .rolledBack hrollsBack
  | false => exact .left db hrollsBack h

theorem perform_cases (c : Connection S) (op : Operation S) (fault : Option ℕ) : Outcome c op (c.perform op fault) := by
  have hframe : ∀ a, ¬op.Writes a (c.working.row? a) → _ := fun a ha =>
    runCommands_frame op.body fault c.working fun s hs hw => ha ⟨s, hs, hw⟩
  unfold Connection.perform
  cases hrun : runCommands op.body fault c.working with
  | error db =>
    rw [hrun] at hframe
    exact raised_cases c hframe
  | ok p =>
    obtain ⟨db, fault'⟩ := p
    rw [hrun] at hframe
    cases hcommits : op.commits with
    | true =>
      dsimp only
      rw [if_pos rfl]
      split_ifs with hfault
      · exact raised_cases c hframe
      · exact .committed db hcommits hframe
    | false => exact .pending db hcommits hframe

/-! ### One table -/

def Statement.table : Statement S → S.Name
  | .insert t _ | .replace t _ | .delete t _ => t

theorem Statement.exec_table {s : Statement S} {db db' : Database S} (h : s.exec db = some db') {t : S.Name}
    (ht : s.table ≠ t) : db' t = db t := by
  cases s with
  | insert t' row =>
    simp only [exec] at h
    split_ifs at h with hbind hfree
    obtain rfl := Option.some.inj h
    exact Database.set_ne db _ ht.symm
  | replace t' row =>
    simp only [exec] at h
    split_ifs at h with hbind
    obtain rfl := Option.some.inj h
    exact Database.set_ne db _ ht.symm
  | delete t' p =>
    obtain rfl := Option.some.inj h
    exact Database.set_ne db _ ht.symm

/-- every statement is about this table -/
def Confined (t : S.Name) (commands : List (Command S)) : Prop := ∀ s, .execute s ∈ commands → s.table = t

/-- no command writes the table -/
def Untouched (t : S.Name) (commands : List (Command S)) : Prop := ∀ s, .execute s ∈ commands → s.table ≠ t

theorem Confined.untouched {t t' : S.Name} {commands : List (Command S)} (h : Confined t commands) (ht : t ≠ t') :
    Untouched t' commands := fun s hs heq => ht ((h s hs).symm.trans heq)

theorem Untouched.append {t : S.Name} {a b : List (Command S)} (ha : Untouched t a) (hb : Untouched t b) :
    Untouched t (a ++ b) := by
  intro s hs
  rcases List.mem_append.1 hs with h | h
  · exact ha s h
  · exact hb s h

/-- the commands from one database to another, none of which raises -/
inductive Does : List (Command S) → Database S → Database S → Prop
  | nil (db : Database S) : Does [] db db
  | cons {command : Command S} {rest : List (Command S)} {db mid db' : Database S} (hexec : command.exec db = some mid)
      (hrest : Does rest mid db') : Does (command :: rest) db db'

theorem runCommands_does {commands : List (Command S)} {fault fault' : Option ℕ} {db db' : Database S}
    (h : runCommands commands fault db = .ok (db', fault')) : Does commands db db' := by
  induction commands generalizing fault db with
  | nil =>
    cases h
    exact .nil _
  | cons command rest ih =>
    unfold runCommands at h
    split_ifs at h
    cases hexec : command.exec db with
    | none =>
      simp only [hexec] at h
      cases h
    | some mid =>
      simp only [hexec] at h
      exact .cons hexec (ih h)

namespace Does

variable {db db' : Database S} {t : S.Name}

theorem of_append {a b : List (Command S)} (h : Does (a ++ b) db db') : ∃ mid, Does a db mid ∧ Does b mid db' := by
  induction a generalizing db with
  | nil => exact ⟨db, .nil db, h⟩
  | cons command a ih =>
    cases h with
    | cons hexec hrest =>
      obtain ⟨mid, ha, hb⟩ := ih hrest
      exact ⟨mid, .cons hexec ha, hb⟩

theorem untouched {commands : List (Command S)} (h : Does commands db db') (ht : Untouched t commands) :
    db' t = db t := by
  induction h with
  | nil => rfl
  | @cons command rest db mid db' hexec _ ih =>
    have hmid : mid t = db t := by
      cases command with
      | execute s => exact s.exec_table hexec (ht s List.mem_cons_self)
      | effect =>
        obtain rfl := Option.some.inj hexec
        rfl
    exact (ih fun s hs => ht s (List.mem_cons_of_mem _ hs)).trans hmid

/-- between commands that do not write a table, it goes through what one part of them does -/
theorem of_part {pre part post : List (Command S)} (h : Does (pre ++ part ++ post) db db') (hpre : Untouched t pre)
    (hpost : Untouched t post) : ∃ mid mid', mid t = db t ∧ Does part mid mid' ∧ db' t = mid' t := by
  obtain ⟨mid', hrun, hlast⟩ := h.of_append
  obtain ⟨mid, hfirst, hpart⟩ := hrun.of_append
  exact ⟨mid, mid', hfirst.untouched hpre, hpart, hlast.untouched hpost⟩

/-- INSERT OR REPLACE -/
theorem replace {row : S.Row t} {rest : List (Command S)} (h : Does (.execute (.replace t row) :: rest) db db') :
    ∃ mid, mid t = (db t).replace row ∧ Does rest mid db' := by
  cases h with
  | cons hexec hrest =>
    simp only [Command.exec, Statement.exec] at hexec
    split_ifs at hexec
    obtain rfl := Option.some.inj hexec
    exact ⟨_, Database.set_self db t _, hrest⟩

theorem delete {p : S.Row t → Bool} {rest : List (Command S)} (h : Does (.execute (.delete t p) :: rest) db db') :
    ∃ mid, mid t = (db t).deleteWhere p ∧ Does rest mid db' := by
  cases h with
  | cons hexec hrest =>
    obtain rfl := Option.some.inj hexec
    exact ⟨_, Database.set_self db t _, hrest⟩

/-- INSERT of several rows -/
theorem inserts {rows : List (S.Row t)} {rest : List (Command S)} (hrest : Untouched t rest)
    (h : Does (rows.map (fun row => .execute (.insert t row)) ++ rest) db db') :
      (db' t).rows = (db t).rows ++ rows := by
  induction rows generalizing db with
  | nil => rw [h.untouched hrest, List.append_nil]
  | cons row rows ih =>
    cases h with
    | cons hexec hmore =>
      simp only [Command.exec, Statement.exec] at hexec
      split_ifs at hexec
      obtain rfl := Option.some.inj hexec
      rw [ih hmore, Database.set_self, Table.insert, List.append_assoc, List.singleton_append]

end Does

/-- an operation that commits and rolls back does all of it or nothing -/
theorem perform_atomic (c : Connection S) {op : Operation S} (hcommits : op.commits = true)
    (hrollsBack : op.rollsBack = true) (fault : Option ℕ) :
    c.perform op fault = (c.reopened, false) ∨ ∃ db, Does op.body c.working db ∧
      c.perform op fault = (.opened db, true) := by
  have hraised : ∀ db, c.raised op db = c.reopened := by
    intro db
    rw [Connection.raised, if_pos hrollsBack]
    rfl
  unfold Connection.perform
  cases hrun : runCommands op.body fault c.working with
  | error db => exact Or.inl (congrArg (·, false) (hraised db))
  | ok p =>
    obtain ⟨db, rest⟩ := p
    dsimp only
    rw [if_pos hcommits, hraised]
    split_ifs
    · exact Or.inl rfl
    · exact Or.inr ⟨db, runCommands_does hrun, rfl⟩

theorem runCommands_untouched {commands : List (Command S)} {t : S.Name} (h : Untouched t commands) (fault : Option ℕ)
    (db : Database S) :
    match runCommands commands fault db with
    | .error db' => db' t = db t
    | .ok (db', _) => db' t = db t := by
  induction commands generalizing fault db with
  | nil => rfl
  | cons command rest ih =>
    unfold runCommands
    by_cases hfault : fault = some 0
    · rw [if_pos hfault]
    · rw [if_neg hfault]
      cases hexec : command.exec db with
      | none => rfl
      | some mid =>
        have hmid : mid t = db t := by
          cases command with
          | execute s => exact s.exec_table hexec (h s List.mem_cons_self)
          | effect =>
            obtain rfl := Option.some.inj hexec
            rfl
        have hrest := ih (fun s hs => h s (List.mem_cons_of_mem _ hs)) (fault.map Nat.pred) mid
        rw [hmid] at hrest
        exact hrest

/-- a table that an operation does not write is committed as it was seen, or goes back to what was committed -/
theorem perform_untouched {op : Operation S} {t : S.Name} (h : Untouched t op.body) (c : Connection S)
    (fault : Option ℕ) :
    ((c.perform op fault).1.working t = c.working t ∨ (c.perform op fault).1.working t = c.committed t) ∧
      ((c.perform op fault).1.committed t = c.committed t ∨ (c.perform op fault).1.committed t = c.working t) := by
  have hcommands := runCommands_untouched h fault c.working
  have hraised : ∀ db : Database S, db t = c.working t →
      ((c.raised op db).working t = c.working t ∨ (c.raised op db).working t = c.committed t) ∧
        ((c.raised op db).committed t = c.committed t ∨ (c.raised op db).committed t = c.working t) := by
    intro db hdb
    refine ⟨?_, .inl rfl⟩
    unfold Connection.raised
    split_ifs
    · exact .inr rfl
    · exact .inl hdb
  unfold Connection.perform
  cases hrun : runCommands op.body fault c.working with
  | error db =>
    rw [hrun] at hcommands
    exact hraised db hcommands
  | ok p =>
    obtain ⟨db, fault'⟩ := p
    rw [hrun] at hcommands
    dsimp only
    split_ifs
    · exact hraised db hcommands
    · exact ⟨.inl hcommands, .inr hcommands⟩
    · exact ⟨.inl hcommands, .inl rfl⟩

/-- a single INSERT OR REPLACE is made or not, and is committed with what was seen before it -/
theorem perform_replace {op : Operation S} {t : S.Name} {row : S.Row t}
    (hbody : op.body = [.execute (.replace t row), .effect])
    (hrollsBack : op.rollsBack = false) (c : Connection S) (fault : Option ℕ) :
    ((c.perform op fault).1.working t = c.working t ∨ (c.perform op fault).1.working t = (c.working t).replace row) ∧
      ((c.perform op fault).1.committed t = c.committed t ∨
        (c.perform op fault).1.committed t = (c.working t).replace row) := by
  have hraised : ∀ db : Database S, c.raised op db = { c with working := db } := by
    intro db
    rw [Connection.raised, hrollsBack]
    rfl
  have hdone : ∀ db : Database S, (Statement.replace t row).exec c.working = some db →
      db t = (c.working t).replace row := by
    intro db hdb
    simp only [Statement.exec] at hdb
    split_ifs at hdb
    obtain rfl := Option.some.inj hdb
    exact Database.set_self c.working t _
  have hrun : (∃ db, runCommands op.body fault c.working = .error db ∧
      (db t = c.working t ∨ db t = (c.working t).replace row)) ∨
      ∃ db rest, runCommands op.body fault c.working = .ok (db, rest) ∧ db t = (c.working t).replace row := by
    rw [hbody, runCommands]
    by_cases hfirst : fault = some 0
    · rw [if_pos hfirst]
      exact .inl ⟨_, rfl, .inl rfl⟩
    · rw [if_neg hfirst]
      cases hexec : (Statement.replace t row).exec c.working with
      | none =>
        simp only [Command.exec, hexec]
        exact .inl ⟨_, rfl, .inl rfl⟩
      | some db =>
        simp only [Command.exec, hexec, runCommands]
        by_cases hsecond : fault.map Nat.pred = some 0
        · rw [if_pos hsecond]
          exact .inl ⟨_, rfl, .inr (hdone db hexec)⟩
        · rw [if_neg hsecond]
          exact .inr ⟨_, _, rfl, hdone db hexec⟩
  unfold Connection.perform
  rcases hrun with ⟨db, hrun, hdb⟩ | ⟨db, rest, hrun, hdb⟩
  · rw [hrun]
    dsimp only
    rw [hraised]
    exact ⟨hdb, .inl rfl⟩
  · rw [hrun]
    dsimp only
    rw [hraised]
    split_ifs
    · exact ⟨.inr hdb, .inl rfl⟩
    · exact ⟨.inr hdb, .inr hdb⟩
    · exact ⟨.inr hdb, .inl rfl⟩

/-- one that commits and returns has done all of its commands -/
theorem perform_returns {op : Operation S} (hcommits : op.commits = true) {c : Connection S} {fault : Option ℕ}
    (h : (c.perform op fault).2 = true) : ∃ db, Does op.body c.working db ∧ (c.perform op fault).1 = .opened db := by
  unfold Connection.perform at h ⊢
  cases hrun : runCommands op.body fault c.working with
  | error db =>
    rw [hrun] at h
    cases h
  | ok p =>
    obtain ⟨db, fault'⟩ := p
    rw [hrun] at h
    dsimp only at h ⊢
    rw [if_pos hcommits] at h ⊢
    split_ifs at h ⊢
    exact ⟨db, runCommands_does hrun, rfl⟩

/-! ## Histories -/

namespace Connection

variable {c : Connection S} {o : Operation S × Option ℕ}

def Commits (c : Connection S) (o : Operation S × Option ℕ) : Prop := o.1.commits = true ∧ c.Returns o

def RollsBack (c : Connection S) (o : Operation S × Option ℕ) : Prop := o.1.rollsBack = true ∧ ¬c.Returns o

instance : Decidable (c.RollsBack o) := inferInstanceAs (Decidable (_ ∧ ¬(c.perform o.1 o.2).2 = true))

theorem step_of_commits (h : c.Commits o) : c.step o = opened (c.step o).working := by
  have hcases := perform_cases c o.1 o.2
  obtain ⟨hcommits, hreturns⟩ := h
  unfold Returns at hreturns
  unfold step
  generalize c.perform o.1 o.2 = result at hcases hreturns ⊢
  cases hcases with
  | committed db => rfl
  | pending db hno => exact absurd hcommits (by simp [hno])
  | rolledBack => exact absurd hreturns Bool.false_ne_true
  | left => exact absurd hreturns Bool.false_ne_true

theorem step_committed (h : ¬c.Commits o) : (c.step o).committed = c.committed := by
  have hcases := perform_cases c o.1 o.2
  unfold Commits Returns at h
  unfold step
  generalize c.perform o.1 o.2 = result at hcases h ⊢
  cases hcases with
  | committed db hcommits => exact absurd ⟨hcommits, rfl⟩ h
  | pending db => rfl
  | rolledBack => rfl
  | left db => rfl

theorem step_of_rollsBack (h : c.RollsBack o) : c.step o = c.reopened := by
  have hcases := perform_cases c o.1 o.2
  obtain ⟨hrollsBack, hraises⟩ := h
  unfold Returns at hraises
  unfold step
  generalize c.perform o.1 o.2 = result at hcases hraises ⊢
  cases hcases with
  | committed db => exact absurd rfl hraises
  | pending db => exact absurd rfl hraises
  | rolledBack => rfl
  | left db hno => exact absurd hrollsBack (by simp [hno])

theorem step_agree (h : ¬c.RollsBack o) : Agree o.1 c.working (c.step o).working := by
  have hcases := perform_cases c o.1 o.2
  unfold RollsBack Returns at h
  unfold step
  generalize c.perform o.1 o.2 = result at hcases h ⊢
  cases hcases with
  | committed db _ hagree => exact hagree
  | pending db _ hagree => exact hagree
  | rolledBack hrollsBack => exact absurd ⟨hrollsBack, Bool.false_ne_true⟩ h
  | left db _ hagree => exact hagree

end Connection

/-- one of the operations commits, and none before it rolls back -/
def CommittedBy : Connection S → List (Operation S × Option ℕ) → Prop
  | _, [] => False
  | c, o :: rest => c.Commits o ∨ ¬c.RollsBack o ∧ CommittedBy (c.step o) rest

/-- no operation writes the address, in the state it is applied to, unless it is rolled back -/
abbrev Spared (a : Address S) (c : Connection S) (history : List (Operation S × Option ℕ)) : Prop :=
  Meets Connection.step (fun c o => c.RollsBack o ∨ ¬o.1.Writes a (c.working.row? a)) c history

/-- a row that is committed and visible stays so while no operation writes it -/
theorem run_kept {c : Connection S} {history : List (Operation S × Option ℕ)} {a : Address S} {x : Option (S.Row a.1)}
    (hcommitted : c.committed.row? a = x) (hworking : c.working.row? a = x) (hspared : Spared a c history) :
    (run Connection.step c history).committed.row? a = x := by
  refine (hspared.run_inv (I := fun c => c.committed.row? a = x ∧ c.working.row? a = x) ?_ ⟨hcommitted, hworking⟩).1
  intro c o ⟨hcommitted, hworking⟩ ho
  by_cases hback : c.RollsBack o
  · rw [Connection.step_of_rollsBack hback]
    exact ⟨hcommitted, hcommitted⟩
  · have hrow : (c.step o).working.row? a = x :=
      (Connection.step_agree hback a (ho.resolve_left hback)).trans hworking
    refine ⟨?_, hrow⟩
    by_cases hcommits : c.Commits o
    · rw [Connection.step_of_commits hcommits]
      exact hrow
    · rw [Connection.step_committed hcommits]
      exact hcommitted

/-- the first commit takes the row along, by induction up to it -/
theorem run_survives {c : Connection S} {history : List (Operation S × Option ℕ)} {a : Address S}
    {x : Option (S.Row a.1)} (hworking : c.working.row? a = x) (hby : CommittedBy c history)
    (hspared : Spared a c history) : (run Connection.step c history).committed.row? a = x := by
  induction history generalizing c with
  | nil => exact hby.elim
  | cons o rest ih =>
    obtain ⟨ho, hrest⟩ := hspared
    rw [run_cons]
    have hrow : ¬c.RollsBack o → (c.step o).working.row? a = x := fun hback =>
      (Connection.step_agree hback a (ho.resolve_left hback)).trans hworking
    rcases hby with hcommits | ⟨hback, hby⟩
    · have hkept := hrow fun hback => hback.2 hcommits.2
      refine run_kept ?_ hkept hrest
      rw [Connection.step_of_commits hcommits]
      exact hkept
    · exact ih (hrow hback) hby hrest

/-- what follows the first operation that rolls back -/
def afterRollback : Connection S → List (Operation S × Option ℕ) → List (Operation S × Option ℕ)
  | _, [] => []
  | c, o :: rest => if c.RollsBack o then rest else afterRollback (c.step o) rest

theorem afterRollback_suffix (c : Connection S) (history : List (Operation S × Option ℕ)) :
    afterRollback c history <:+ history.tail := by
  induction history generalizing c with
  | nil => exact List.suffix_refl []
  | cons o history ih =>
    rw [afterRollback]
    split_ifs with hback
    · exact List.suffix_refl history
    · exact (ih (c.step o)).trans (List.tail_suffix history)

/-- what is not committed before a rollback is lost: the file is as if the operations up to there had not been
performed -/
theorem run_lost {c : Connection S} {history : List (Operation S × Option ℕ)} (h : ¬CommittedBy c history) :
    (run Connection.step c history).committed =
      (run Connection.step c.reopened (afterRollback c history)).committed := by
  induction history generalizing c with
  | nil => rfl
  | cons o history ih =>
    rw [CommittedBy, not_or] at h
    obtain ⟨hcommits, hby⟩ := h
    have hcommitted := Connection.step_committed hcommits
    rw [afterRollback, run_cons]
    split_ifs with hback
    · rw [Connection.step_of_rollsBack hback]
    · rw [ih fun hby' => hby ⟨hback, hby'⟩, Connection.reopened, hcommitted]
      rfl

end InferencePlatform.Core.Sql
