import A5cCell.DataAccess.Pages
import A5cCell.DataAccess.Rows
import A5cCell.TenantApi.Calls
import A5cCell.TenantApi.World

/-!
# What the writes write

What each request of the handlers makes of the tables in a world, where it is not refused: a read
nothing, a put the item's row, and setting attributes the row with the attributes merged in, as far as
DynamoDB does what a `SET` expression says (`SetsAttributes`).
-/

namespace A5cCell.TenantApi

open Py (Val Items Dict)
open DataAccess

/-! ## Setting attributes -/

/-- DynamoDB does what a `SET` expression says: an update that is not refused leaves the row with the
    attributes set, and with its others as they were. -/
def SetsAttributes (dynamo : Dynamo) : Prop :=
  ∀ table key attributes row updated,
    dynamo.update (setRequest table key attributes).kwargs row = .ok updated →
      ∀ field, IsAttribute field → updated.lookup field = (Items.merge row attributes).lookup field

/-- What the names and the values of an update expression set. -/
def attributesSet (kwargs : Dict String Arg) : Items :=
  match kwargs.get? "ExpressionAttributeNames", kwargs.get? "ExpressionAttributeValues" with
  | some (.val (.dict names)), some (.val (.dict values)) =>
      (names.zip values).map fun (name, value) => (name.2.toStr, value.2)
  | _, _ => []

/-- A DynamoDB that pages after every row, and sets what an update expression names. -/
def settingRows : Dynamo :=
  { Dynamo.rowByRow with update := fun kwargs row => .ok (row.merge (attributesSet kwargs)) }

theorem attributesSet_setRequest (table : String) (key attributes : Items) :
    attributesSet (setRequest table key attributes).kwargs = attributes := by
  have hset : attributesSet (setRequest table key attributes).kwargs =
      (((attributes.zipIdx 1).map fun x => (s!"#n{x.2}", Val.str x.1.1)).zip
        ((attributes.zipIdx 1).map fun x => (s!":v{x.2}", x.1.2))).map
          fun pair => (pair.1.2.toStr, pair.2.2) := rfl
  rw [hset, List.zip_map', List.map_map]
  have hfst : ((fun (pair : (String × Val) × (String × Val)) => (pair.1.2.toStr, pair.2.2)) ∘
      fun (x : (String × Val) × Nat) => ((s!"#n{x.2}", Val.str x.1.1), (s!":v{x.2}", x.1.2))) =
        Prod.fst := by
    funext x
    rfl
  exact (congrArg (List.map · (attributes.zipIdx 1)) hfst).trans (by simp)

theorem settingRows_setsAttributes : SetsAttributes settingRows := by
  intro table key attributes row updated hupdate field _
  have hrow : settingRows.update (setRequest table key attributes).kwargs row =
      .ok (row.merge (attributesSet (setRequest table key attributes).kwargs)) := rfl
  rw [hrow, attributesSet_setRequest] at hupdate
  cases hupdate
  rfl

/-! ## What is written -/

section

variable {τ : Type} (world : World τ) (state : Tables × τ)

/-- A request to DynamoDB fails, or is served from the tables. -/
theorem serve_db (r : Request) :
    (∃ fault, world.serve state (.db r) = (.error fault, (state.1, world.next state.2 (.db r)))) ∨
    world.serve state (.db r) = ((world.dynamo.serve state.1 r).1,
      ((world.dynamo.serve state.1 r).2, world.next state.2 (.db r))) := by
  simp only [World.serve]
  cases world.fault state.2 r with
  | some fault => exact .inl ⟨fault, rfl⟩
  | none => exact .inr rfl

/-- A read writes nothing. -/
theorem serve_get (table : String) (key : Items) :
    (world.serve state (.db (getRequest table key))).2.1 = state.1 := by
  rcases serve_db world state (getRequest table key) with ⟨fault, hserve⟩ | hserve
  · rw [hserve]
  · rw [hserve]
    simp only [getRequest, Dynamo.serve]
    cases ((noKwargs.set "Key" (.val (.dict key))).get? "Key").bind (Arg.key? table) <;> rfl

/-- A row that is read is the one that is stored. -/
theorem get_of_serve_get {table : String} {item existing : Items} {key : RowKey}
    (hkey : Arg.key? table (.val (.dict item)) = some key)
    (h : (world.serve state (.db (getRequest table item))).1 = .ok (some existing)) :
    ∃ attributes, state.1.get? key = some attributes ∧ existing = key.row attributes := by
  rcases serve_db world state (getRequest table item) with ⟨fault, hserve⟩ | hserve
  · rw [hserve] at h
    cases h
  · rw [hserve] at h
    have hget : (getRequest table item).kwargs.get? "Key" = some (.val (.dict item)) := rfl
    simp only [getRequest, Dynamo.serve] at hget h
    rw [hget, Option.bind_some, hkey] at h
    simp only [Except.ok.injEq, Option.map_eq_some_iff] at h
    obtain ⟨attributes, hattributes, rfl⟩ := h
    exact ⟨attributes, hattributes, rfl⟩

/-- A put writes the item's row, or nothing where it fails. -/
theorem serve_put (table : String) (item : Items) :
    ((world.serve state (.db (putRequest table item))).2.1 = state.1 ∧
      ∃ fault, (world.serve state (.db (putRequest table item))).1 = .error fault) ∨
    ∃ key attributes, Arg.item? table (.val (.dict item)) = some (key, attributes) ∧
      (world.serve state (.db (putRequest table item))).2.1 = state.1.set key attributes ∧
      (world.serve state (.db (putRequest table item))).1 = .ok () := by
  rcases serve_db world state (putRequest table item) with ⟨fault, hserve⟩ | hserve
  · rw [hserve]
    exact .inl ⟨rfl, fault, rfl⟩
  · rw [hserve]
    have hget : (putRequest table item).kwargs.get? "Item" = some (.val (.dict item)) := rfl
    simp only [putRequest, Dynamo.serve] at hget ⊢
    rw [hget, Option.bind_some]
    cases hitem : Arg.item? table (.val (.dict item)) with
    | none => exact .inl ⟨rfl, _, rfl⟩
    | some keyed => exact .inr ⟨keyed.1, keyed.2, rfl, rfl, rfl⟩

/-- An update writes the row it leaves, and answers with it, or writes nothing where it fails. -/
theorem serve_update (table : String) (kwargs : Dict String Arg) :
    ((world.serve state (.db ⟨.updateItem, table, kwargs⟩)).2.1 = state.1 ∧
      ∃ fault, (world.serve state (.db ⟨.updateItem, table, kwargs⟩)).1 = .error fault) ∨
    ∃ key updated, (kwargs.get? "Key").bind (Arg.key? table) = some key ∧
      world.dynamo.update kwargs (key.row ((state.1.get? key).getD [])) = .ok updated ∧
      (world.serve state (.db ⟨.updateItem, table, kwargs⟩)).2.1 =
        state.1.set key (attributesOf updated) ∧
      (world.serve state (.db ⟨.updateItem, table, kwargs⟩)).1 =
        .ok [("Attributes", .dict (key.row (attributesOf updated)))] := by
  rcases serve_db world state ⟨.updateItem, table, kwargs⟩ with ⟨fault, hserve⟩ | hserve
  · rw [hserve]
    exact .inl ⟨rfl, fault, rfl⟩
  · rw [hserve]
    simp only [Dynamo.serve]
    cases hkey : (kwargs.get? "Key").bind (Arg.key? table) with
    | none => exact .inl ⟨rfl, _, rfl⟩
    | some key =>
      simp only
      split
      · cases hupdate : world.dynamo.update kwargs (key.row ((state.1.get? key).getD [])) with
        | error fault => exact .inl ⟨rfl, fault, rfl⟩
        | ok updated => exact .inr ⟨key, updated, rfl, hupdate, rfl, rfl⟩
      · exact .inl ⟨rfl, _, rfl⟩

/-- Setting attributes writes the row the update leaves, or nothing where it fails. -/
theorem serve_set (table : String) (item attributes : Items) :
    ((world.serve state (.db (setRequest table item attributes))).2.1 = state.1 ∧
      ∃ fault, (world.serve state (.db (setRequest table item attributes))).1 = .error fault) ∨
    ∃ key updated, Arg.key? table (.val (.dict item)) = some key ∧
      world.dynamo.update (setRequest table item attributes).kwargs
        (key.row ((state.1.get? key).getD [])) = .ok updated ∧
      (world.serve state (.db (setRequest table item attributes))).2.1 =
        state.1.set key (attributesOf updated) ∧
      ∃ row, (world.serve state (.db (setRequest table item attributes))).1 = .ok row := by
  rcases serve_db world state (setRequest table item attributes) with ⟨fault, hserve⟩ | hserve
  · rw [hserve]
    exact .inl ⟨rfl, fault, rfl⟩
  · rw [hserve]
    have hget : (setRequest table item attributes).kwargs.get? "Key" = some (.val (.dict item)) := rfl
    have hcondition (row : Option Items) :
        world.dynamo.conditionHolds (setRequest table item attributes).kwargs row = true := rfl
    simp only [setRequest, Dynamo.serve] at hget hcondition ⊢
    rw [hget, Option.bind_some]
    cases hkey : Arg.key? table (.val (.dict item)) with
    | none => exact .inl ⟨rfl, _, rfl⟩
    | some key =>
      simp only [hcondition, if_true]
      cases hupdate : world.dynamo.update (setRequest table item attributes).kwargs
          (key.row ((state.1.get? key).getD [])) with
      | error fault =>
        simp only [setRequest] at hupdate
        rw [hupdate]
        exact .inl ⟨rfl, fault, rfl⟩
      | ok updated =>
        refine .inr ⟨key, updated, rfl, hupdate, ?_⟩
        simp only [setRequest] at hupdate
        rw [hupdate]
        exact ⟨rfl, _, rfl⟩

end

end A5cCell.TenantApi
