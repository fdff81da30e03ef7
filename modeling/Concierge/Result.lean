import Concierge.Definition
import Concierge.Value.Access

/-!
# Results

A trigger answers with a result, with a dictionary that names some parts of one, or with anything
else. The answer is completed to a result: success unless it says otherwise, a general message unless
it has one, and no data unless it has a dictionary of them.
-/

namespace Concierge

/-- The message of a success that has no other. -/
def successMessage : String := "Action completed successfully."

/-- The message of a failure that has no other. -/
def failureMessage : String := "Action failed."

/-- What came of executing a directive. -/
structure Result where
  success : Bool := true
  message : String := successMessage
  data : Dict Value := []
  deriving DecidableEq

/-- A result that reports a failure. -/
def Result.failure (message : String) (data : Dict Value := []) : Result := ⟨false, message, data⟩

/-- A result as a dictionary. -/
def Result.toDict (r : Result) : Dict Value :=
  [("success", .bool r.success), ("message", .text r.message), ("data", .dict r.data)]

/-- A failed result has no success. -/
@[simp] theorem Result.success_failure (message : String) (data : Dict Value) :
    (Result.failure message data).success = false := rfl

/-- What a trigger answers. -/
inductive Answer where
  /-- The three parts of a result, which need not be of their proper kinds. -/
  | parts (success message data : Value)
  | value (v : Value)
  deriving DecidableEq

namespace Answer

/-- A proper result as an answer. -/
def ofResult (r : Result) : Answer := parts (.bool r.success) (.text r.message) (.dict r.data)

/-- The part of an answer that tells success, absent when there is none. -/
def success : Answer → Value
  | parts success _ _ => success
  | value (.dict d) => (Dict.find? "success" d).getD .null
  | value _ => .null

/-- The message of an answer, absent when there is none. -/
def message : Answer → Value
  | parts _ message _ => message
  | value (.dict d) => (Dict.find? "message" d).getD .null
  | value _ => .null

/-- The data of an answer, absent when there are none. -/
def data : Answer → Value
  | parts _ _ data => data
  | value (.dict d) => (Dict.find? "data" d).getD .null
  | value _ => .null

/-- An answer succeeds unless it says something that counts as false. -/
def succeeds (a : Answer) : Bool :=
  match a.success with
  | .null => true
  | v => v.truthy

/-- The entries of a dictionary, and none of any other value. -/
def entries : Value → Dict Value
  | .dict d => d
  | _ => []

/-- The result that an answer stands for. There is none if its message cannot be shown. -/
def normalized (a : Answer) : Except NumberError Result := do
  let message ←
    if a.message.truthy then a.message.shown
    else pure (if a.succeeds then successMessage else failureMessage)
  return { success := a.succeeds, message, data := entries a.data }

/-- A proper result is kept; an empty message is replaced by the general one. -/
theorem normalized_ofResult (r : Result) :
    (ofResult r).normalized = .ok { r with
      message := if r.message = "" then (if r.success then successMessage else failureMessage)
        else r.message } := by
  have hsucceeds : (ofResult r).succeeds = r.success := rfl
  by_cases hempty : r.message = ""
  · have hmissing : (ofResult r).message.truthy = false := by simp [ofResult, message, Value.truthy, hempty]
    rw [normalized, hmissing, hsucceeds, if_pos hempty]
    rfl
  · have hgiven : (ofResult r).message.truthy = true := by simp [ofResult, message, Value.truthy, hempty]
    rw [normalized, hgiven, hsucceeds, if_neg hempty]
    rfl

end Answer

/-- The result of one occurrence of a directive in a text. A report that an application makes may hold
values of any kind. -/
structure Report where
  triggerId : Value
  triggerName : Value
  success : Value
  message : Value
  data : Value := .dict []
  /-- Where the directive starts. -/
  start : Int := 0
  deriving DecidableEq

namespace Report

/-- The report of a result. -/
def ofResult (d : Definition) (r : Result) (start : Int := 0) : Report :=
  ⟨.text d.id, .text d.name, .bool r.success, .text r.message, .dict r.data, start⟩

/-- The report of a result that need not be a proper one; its data have to be entries. -/
def ofParts (d : Definition) (success message data : Value) (start : Int := 0) :
    Except ShapeError Report := do
  return ⟨.text d.id, .text d.name, success, message, .dict (← data.toDict), start⟩

/-- A report as a dictionary, which does not tell where the directive starts. -/
def toDict (r : Report) : Dict Value :=
  [("trigger_id", r.triggerId), ("trigger_name", r.triggerName), ("success", r.success),
   ("message", r.message), ("data", r.data)]

/-- Two reports agree when they differ at most in where their directives start; what is no number is
not equal to itself. -/
def agrees (a b : Report) : Bool :=
  a == { b with start := a.start } && !(a.success.hasNan || a.message.hasNan || a.data.hasNan)

end Report

end Concierge
