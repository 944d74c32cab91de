/-
Databases whose rows encode values.

A schema says what a repository keeps, another how it is written down. An `Encoding` writes each row of the first as a
row of the second, so that keys stay apart. Operations correspond if their commands do, one by one (`OperationEncodes`):
a DELETE may have another condition, as long as it picks out the encodings of the same rows.

- `perform_encodes`: operations that correspond return or raise alike, and leave databases that correspond;
- `run_encodes`: so do histories, with faults, commits, rollbacks and the database opened again;
- `Encodes.row?`, `Encodes.select`: what is looked up or selected in the encoding of a database.

`Spares` is about one schema: a statement does not write certain rows of a table. `run_keeps`: what is committed of them
stays.
-/
import InferencePlatform.Core.KeySort
import InferencePlatform.Core.Sql

namespace InferencePlatform.Core.Sql

variable {S T : Schema}

/-! ## Histories with restarts -/

inductive Event (S : Schema)
  /-- the fault is that of `Connection.perform` -/
  | perform (op : Operation S) (fault : Option ℕ)
  /-- the connection is closed, and the database opened again -/
  | reopen

def Connection.next (c : Connection S) : Event S → Connection S
  | .perform op fault => (c.perform op fault).1
  | .reopen => c.reopened

/-! ## Lists that are decoded -/

/-- a decoder that refuses none of the items -/
theorem mapM_ok {ε α β : Type} {f : α → Except ε β} {norm : α → β} {l : List α} (h : ∀ a ∈ l, f a = .ok (norm a)) :
    l.mapM f = .ok (l.map norm) := by
  induction l with
  | nil => rfl
  | cons a rest ih =>
    rw [List.mapM_cons, h a List.mem_cons_self, ih fun b hb => h b (List.mem_cons_of_mem a hb)]
    rfl

/-- a loop that looks up each of the items, and finds it -/
theorem mapM_found {ε α β : Type} {f : α → Except ε (Option β)} {norm : α → β} {l : List α}
    (h : ∀ a ∈ l, f a = .ok (some (norm a))) : (do return (← l.mapM f).reduceOption) = .ok (l.map norm) := by
  have hfound : (l.map fun a => some (norm a)).reduceOption = l.map norm := by
    change (l.map fun a => some (norm a)).filterMap id = l.map norm
    rw [List.filterMap_map]
    exact congrFun List.filterMap_eq_map l
  rw [mapM_ok h, ← hfound]
  rfl

/-! ## Encodings -/

structure Encoding (S T : Schema) where
  name : S.Name → T.Name
  encode : (t : S.Name) → S.Row t → T.Row (name t)
  name_injective : Function.Injective name
  key_iff : ∀ t row row', T.key (name t) (encode t row) = T.key (name t) (encode t row') ↔ S.key t row = S.key t row'
  bindable : ∀ t row, T.bindable (name t) (encode t row) = S.bindable t row

namespace Encoding

variable (E : Encoding S T)

def Encodes (db : Database S) (db' : Database T) : Prop := ∀ t, (db' (E.name t)).rows = (db t).rows.map (E.encode t)

inductive StatementEncodes : Statement S → Statement T → Prop
  | insert (t : S.Name) (row : S.Row t) : StatementEncodes (.insert t row) (.insert (E.name t) (E.encode t row))
  | replace (t : S.Name) (row : S.Row t) : StatementEncodes (.replace t row) (.replace (E.name t) (E.encode t row))
  | delete {t : S.Name} {p : S.Row t → Bool} {q : T.Row (E.name t) → Bool} (h : ∀ row, q (E.encode t row) = p row) :
    StatementEncodes (.delete t p) (.delete (E.name t) q)

inductive CommandEncodes : Command S → Command T → Prop
  | execute {s : Statement S} {s' : Statement T} (h : E.StatementEncodes s s') :
    CommandEncodes (.execute s) (.execute s')
  | effect : CommandEncodes .effect .effect

abbrev CommandsEncode : List (Command S) → List (Command T) → Prop := List.Forall₂ E.CommandEncodes

structure OperationEncodes (op : Operation S) (op' : Operation T) : Prop where
  body : E.CommandsEncode op.body op'.body
  commits : op'.commits = op.commits
  rollsBack : op'.rollsBack = op.rollsBack

structure ConnectionEncodes (c : Connection S) (c' : Connection T) : Prop where
  committed : E.Encodes c.committed c'.committed
  working : E.Encodes c.working c'.working

inductive EventEncodes : Event S → Event T → Prop
  | perform {op : Operation S} {op' : Operation T} (h : E.OperationEncodes op op') (fault : Option ℕ) :
    EventEncodes (.perform op fault) (.perform op' fault)
  | reopen : EventEncodes .reopen .reopen

variable {E}

/-! ### Statements -/

variable {db : Database S} {db' : Database T}

theorem Encodes.set (h : E.Encodes db db') {t : S.Name} {U : Table (S.key t)} {U' : Table (T.key (E.name t))}
    (hrows : U'.rows = U.rows.map (E.encode t)) : E.Encodes (db.set t U) (db'.set (E.name t) U') := by
  intro t'
  by_cases ht : t' = t
  · subst ht
    rw [Database.set_self, Database.set_self]
    exact hrows
  · have hname : E.name t' ≠ E.name t := fun heq => ht (E.name_injective heq)
    rw [Database.set_ne db _ ht, Database.set_ne db' _ hname]
    exact h t'

theorem Encodes.deleteWhere (h : E.Encodes db db') {t : S.Name} {p : S.Row t → Bool} {q : T.Row (E.name t) → Bool}
    (hpq : ∀ row, q (E.encode t row) = p row) :
    ((db' (E.name t)).deleteWhere q).rows = ((db t).deleteWhere p).rows.map (E.encode t) := by
  unfold Table.deleteWhere
  dsimp only
  rw [h t, List.filter_map]
  refine congrArg (List.map (E.encode t)) (List.filter_congr fun row _ => ?_)
  rw [Function.comp_apply, hpq]

theorem Encodes.free_iff (h : E.Encodes db db') (t : S.Name) (row : S.Row t) :
    (∀ x ∈ (db' (E.name t)).rows, T.key (E.name t) x ≠ T.key (E.name t) (E.encode t row)) ↔
      ∀ x ∈ (db t).rows, S.key t x ≠ S.key t row := by
  rw [h t, List.forall_mem_map]
  exact forall₂_congr fun x _ => not_congr (E.key_iff t x row)

theorem Encodes.replace (h : E.Encodes db db') (t : S.Name) (row : S.Row t) :
    ((db' (E.name t)).replace (E.encode t row)).rows = ((db t).replace row).rows.map (E.encode t) := by
  rw [Table.rows_replace, Table.rows_replace, h t, List.filter_map, List.map_append, List.map_singleton]
  congr 1
  refine congrArg (List.map (E.encode t)) (List.filter_congr fun x _ => ?_)
  simp only [Function.comp_apply, ne_eq, E.key_iff]

theorem exec_encodes (h : E.Encodes db db') {s : Statement S} {s' : Statement T} (hs : E.StatementEncodes s s') :
    Option.Rel E.Encodes (s.exec db) (s'.exec db') := by
  cases hs with
  | insert t row =>
    simp only [Statement.exec, E.bindable]
    by_cases hbind : S.bindable t row = true
    · rw [if_pos hbind, if_pos hbind]
      by_cases hfree : ∀ x ∈ (db t).rows, S.key t x ≠ S.key t row
      · rw [dif_pos hfree, dif_pos ((h.free_iff t row).2 hfree)]
        refine .some (h.set ?_)
        change (db' (E.name t)).rows ++ [E.encode t row] = ((db t).rows ++ [row]).map (E.encode t)
        rw [h t, List.map_append, List.map_singleton]
      · rw [dif_neg hfree, dif_neg fun hfree' => hfree ((h.free_iff t row).1 hfree')]
        exact .none
    · rw [if_neg hbind, if_neg hbind]
      exact .none
  | replace t row =>
    simp only [Statement.exec, E.bindable]
    by_cases hbind : S.bindable t row = true
    · rw [if_pos hbind, if_pos hbind]
      exact .some (h.set (h.replace t row))
    · rw [if_neg hbind, if_neg hbind]
      exact .none
  | delete hpq => exact .some (h.set (h.deleteWhere hpq))

theorem command_encodes (h : E.Encodes db db') {command : Command S} {command' : Command T}
    (hc : E.CommandEncodes command command') : Option.Rel E.Encodes (command.exec db) (command'.exec db') := by
  cases hc with
  | execute hs => exact exec_encodes h hs
  | effect => exact .some h

/-! ### Operations -/

/-- what the commands of an operation have left, with what is left of the fault -/
inductive RunEncodes (E : Encoding S T) :
    Except (Database S) (Database S × Option ℕ) → Except (Database T) (Database T × Option ℕ) → Prop
  | raised {db : Database S} {db' : Database T} (h : E.Encodes db db') : RunEncodes E (.error db) (.error db')
  | done {db : Database S} {db' : Database T} (fault : Option ℕ) (h : E.Encodes db db') :
    RunEncodes E (.ok (db, fault)) (.ok (db', fault))

theorem runCommands_encodes {commands : List (Command S)} {commands' : List (Command T)}
    (hcommands : E.CommandsEncode commands commands') (fault : Option ℕ) (h : E.Encodes db db') :
    RunEncodes E (runCommands commands fault db) (runCommands commands' fault db') := by
  induction hcommands generalizing fault db db' with
  | nil => exact .done fault h
  | @cons command command' rest rest' hcommand _ ih =>
    unfold runCommands
    by_cases hfault : fault = some 0
    · rw [if_pos hfault, if_pos hfault]
      exact .raised h
    · rw [if_neg hfault, if_neg hfault]
      have hexec := command_encodes h hcommand
      cases hc : command.exec db with
      | none =>
        cases hc' : command'.exec db' with
        | none => exact .raised h
        | some mid' =>
          rw [hc, hc'] at hexec
          cases hexec
      | some mid =>
        cases hc' : command'.exec db' with
        | none =>
          rw [hc, hc'] at hexec
          cases hexec
        | some mid' =>
          rw [hc, hc'] at hexec
          cases hexec with
          | some hmid => exact ih (fault.map Nat.pred) hmid

theorem ConnectionEncodes.opened (h : E.Encodes db db') : E.ConnectionEncodes (.opened db) (.opened db') := ⟨h, h⟩

theorem ConnectionEncodes.raised {c : Connection S} {c' : Connection T} (hc : E.ConnectionEncodes c c')
    {op : Operation S} {op' : Operation T} (hop : E.OperationEncodes op op') (h : E.Encodes db db') :
    E.ConnectionEncodes (c.raised op db) (c'.raised op' db') := by
  refine ⟨hc.committed, ?_⟩
  unfold Connection.raised
  rw [hop.rollsBack]
  split_ifs
  · exact hc.committed
  · exact h

theorem perform_encodes {c : Connection S} {c' : Connection T} (hc : E.ConnectionEncodes c c') {op : Operation S}
    {op' : Operation T} (hop : E.OperationEncodes op op') (fault : Option ℕ) :
    E.ConnectionEncodes (c.perform op fault).1 (c'.perform op' fault).1 ∧
      (c'.perform op' fault).2 = (c.perform op fault).2 := by
  have hrun := runCommands_encodes hop.body fault hc.working
  unfold Connection.perform
  generalize runCommands op.body fault c.working = result, runCommands op'.body fault c'.working = result' at hrun
  cases hrun with
  | raised h => exact ⟨hc.raised hop h, rfl⟩
  | done fault' h =>
    dsimp only
    rw [hop.commits]
    split_ifs
    · exact ⟨hc.raised hop h, rfl⟩
    · exact ⟨.opened h, rfl⟩
    · exact ⟨⟨hc.committed, h⟩, rfl⟩

theorem next_encodes {c : Connection S} {c' : Connection T} (hc : E.ConnectionEncodes c c') {event : Event S}
    {event' : Event T} (he : E.EventEncodes event event') : E.ConnectionEncodes (c.next event) (c'.next event') := by
  cases he with
  | perform hop fault => exact (perform_encodes hc hop fault).1
  | reopen => exact .opened hc.committed

theorem run_encodes {c : Connection S} {c' : Connection T} (hc : E.ConnectionEncodes c c') {events : List (Event S)}
    {events' : List (Event T)} (he : List.Forall₂ E.EventEncodes events events') :
    E.ConnectionEncodes (run Connection.next c events) (run Connection.next c' events') := by
  induction he generalizing c c' with
  | nil => exact hc
  | cons hevent _ ih => exact ih (next_encodes hc hevent)

theorem encodes_empty : E.Encodes .empty .empty := fun _ => rfl

/-! ### Reads -/

theorem Encodes.row? (h : E.Encodes db db') {t : S.Name} {k : S.Key t} {k' : T.Key (E.name t)}
    (hk : ∀ row, T.key (E.name t) (E.encode t row) = k' ↔ S.key t row = k) :
    (db' (E.name t)).row? k' = ((db t).row? k).map (E.encode t) := by
  rw [Table.row?, Table.row?, h t, List.find?_map]
  congr 2
  funext row
  exact decide_eq_decide.2 (hk row)

/-- the rows of a condition, in the order of a column -/
theorem Encodes.select {κ : Type} [LinearOrder κ] (h : E.Encodes db db') {t : S.Name} {p : S.Row t → Bool}
    {q : T.Row (E.name t) → Bool} (hpq : ∀ row, q (E.encode t row) = p row) (column : T.Row (E.name t) → κ) :
    sortOn column ((db' (E.name t)).rows.filter q) =
      (sortOn (fun row => column (E.encode t row)) ((db t).rows.filter p)).map (E.encode t) := by
  rw [h t, List.filter_map, sortOn_map]
  refine congrArg (fun rows => (sortOn _ rows).map (E.encode t)) (List.filter_congr fun row _ => ?_)
  rw [Function.comp_apply, hpq]

/-- they are decoded to what was encoded -/
theorem Encodes.decode {κ ε β : Type} [LinearOrder κ] (h : E.Encodes db db') {t : S.Name} {p : S.Row t → Bool}
    {q : T.Row (E.name t) → Bool} (hpq : ∀ row, q (E.encode t row) = p row) (column : T.Row (E.name t) → κ)
    {f : T.Row (E.name t) → Except ε β} {g : S.Row t → β} (hf : ∀ row, f (E.encode t row) = .ok (g row)) :
    (sortOn column ((db' (E.name t)).rows.filter q)).mapM f =
      .ok ((sortOn (fun row => column (E.encode t row)) ((db t).rows.filter p)).map g) := by
  rw [h.select hpq, List.mapM_map]
  exact mapM_ok fun row _ => hf row

end Encoding

/-! ## Rows that are left alone -/

/-- the rows of a table that meet a condition, as long as they are `kept`, are not written -/
inductive Spares {t : S.Name} (p : S.Row t → Bool) (kept : List (S.Row t)) : Statement S → Prop
  | other {s : Statement S} (ht : s.table ≠ t) : Spares p kept s
  | insert {row : S.Row t} (hrow : p row = false) : Spares p kept (.insert t row)
  | replace {row : S.Row t} (hrow : p row = false) (hkeys : ∀ x ∈ kept, S.key t x ≠ S.key t row) :
    Spares p kept (.replace t row)
  | delete {q : S.Row t → Bool} (hkept : ∀ x ∈ kept, q x = false) : Spares p kept (.delete t q)

/-- what a database has of them -/
def Database.Keeps (db : Database S) {t : S.Name} (p : S.Row t → Bool) (kept : List (S.Row t)) : Prop :=
  (db t).rows.filter p = kept

def Connection.Keeps (c : Connection S) {t : S.Name} (p : S.Row t → Bool) (kept : List (S.Row t)) : Prop :=
  c.committed.Keeps p kept ∧ c.working.Keeps p kept

/-- an operation spares them in each of its statements -/
def Event.Spares {t : S.Name} (p : S.Row t → Bool) (kept : List (S.Row t)) : Event S → Prop
  | .perform op _ => ∀ s, .execute s ∈ op.body → Sql.Spares p kept s
  | .reopen => True

variable {t : S.Name} {p : S.Row t → Bool} {kept : List (S.Row t)} {db : Database S}

theorem exec_keeps {s : Statement S} (hs : Spares p kept s) (h : db.Keeps p kept) {db' : Database S}
    (hexec : s.exec db = some db') : db'.Keeps p kept := by
  unfold Database.Keeps at h ⊢
  cases hs with
  | other ht => rw [s.exec_table hexec ht, h]
  | @insert row hrow =>
    simp only [Statement.exec] at hexec
    split_ifs at hexec
    obtain rfl := Option.some.inj hexec
    rw [Database.set_self, Table.insert, List.filter_append, h, List.filter_singleton, hrow]
    exact List.append_nil kept
  | @replace row hrow hkeys =>
    simp only [Statement.exec] at hexec
    split_ifs at hexec
    obtain rfl := Option.some.inj hexec
    have hold : ((db t).rows.filter fun x => S.key t x ≠ S.key t row).filter p = kept := by
      rw [List.filter_comm, h]
      exact List.filter_eq_self.2 fun x hx => by simpa using hkeys x hx
    rw [Database.set_self, Table.rows_replace, List.filter_append, hold, List.filter_singleton, hrow]
    exact List.append_nil kept
  | @delete q hkept =>
    obtain rfl := Option.some.inj hexec
    rw [Database.set_self, Table.deleteWhere, List.filter_comm, h]
    exact List.filter_eq_self.2 fun x hx => by simp [hkept x hx]

theorem runCommands_keeps {commands : List (Command S)} (hs : ∀ s, .execute s ∈ commands → Spares p kept s)
    (fault : Option ℕ) (h : db.Keeps p kept) :
    match runCommands commands fault db with
    | .error db' => db'.Keeps p kept
    | .ok (db', _) => db'.Keeps p kept := by
  induction commands generalizing fault db with
  | nil => exact h
  | cons command rest ih =>
    unfold runCommands
    by_cases hfault : fault = some 0
    · rw [if_pos hfault]
      exact h
    · rw [if_neg hfault]
      cases hexec : command.exec db with
      | none => exact h
      | some mid =>
        have hmid : mid.Keeps p kept := by
          cases command with
          | execute s => exact exec_keeps (hs s List.mem_cons_self) h hexec
          | effect =>
            obtain rfl := Option.some.inj hexec
            exact h
        exact ih (fun s hmem => hs s (List.mem_cons_of_mem _ hmem)) (fault.map Nat.pred) hmid

theorem next_keeps {c : Connection S} {event : Event S} (h : c.Keeps p kept) (he : event.Spares p kept) :
    (c.next event).Keeps p kept := by
  cases event with
  | reopen => exact ⟨h.1, h.1⟩
  | perform op fault =>
    have hrun := runCommands_keeps he fault h.2
    have hraised : ∀ db : Database S, db.Keeps p kept → (c.raised op db).Keeps p kept := by
      intro db hdb
      refine ⟨h.1, ?_⟩
      unfold Connection.raised
      split_ifs
      · exact h.1
      · exact hdb
    change (c.perform op fault).1.Keeps p kept
    unfold Connection.perform
    cases hresult : runCommands op.body fault c.working with
    | error db =>
      rw [hresult] at hrun
      exact hraised db hrun
    | ok result =>
      obtain ⟨db, fault'⟩ := result
      rw [hresult] at hrun
      dsimp only
      split_ifs
      · exact hraised db hrun
      · exact ⟨hrun, hrun⟩
      · exact ⟨h.1, hrun⟩

/-- rows that are committed, and not changed since, are still there after any history that spares them -/
theorem run_keeps {c : Connection S} {events : List (Event S)} (h : c.Keeps p kept)
    (he : ∀ event ∈ events, event.Spares p kept) : (run Connection.next c events).Keeps p kept :=
  (Meets.of_mem he c).run_inv (I := fun c => c.Keeps p kept) (fun _ _ hc hevent => next_keeps hc hevent) h

end InferencePlatform.Core.Sql
