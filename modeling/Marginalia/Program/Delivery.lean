import Marginalia.Delivery
import Marginalia.Program.Fault

/-!
# Delivering to what a program names

A debug call may name any value as its destination or its format. A value that counts as false
stands for the error stream or the usual format. Any other value that is no path stops the program,
but not before the content has been rendered; a value that is no name of a format only keeps the
content from being rendered.

## Main definitions

* `Store.target`: the destination that a value is
* `Store.format`: the format that a value is
* `Outlets.deliverTo`: content delivered to the destination that a value is

## Main results

* `Outlets.deliverTo_text`: what texts name
-/

namespace Marginalia

namespace Store

/-- The destination that a value is, or the class of a value that is none. Bytes are the path that
they encode. -/
def target (σ : Store) (v : Value) : Except Text Destination :=
  if !σ.truthy v then .ok none
  else
    match v with
    | .text path => .ok (some path)
    | .bytes bs =>
      match Utf8.decode bs with
      | .ok path => .ok (some path)
      | .error _ => .error v.typeName
    | _ => .error v.typeName

/-- The format that a value is, or the class of a value that is none. Bytes name no format. -/
def format (σ : Store) (v : Value) : Except Text (Option Text) :=
  if !σ.truthy v then .ok none
  else
    match v with
    | .text name => .ok (some name)
    | .bytes _ => .ok none
    | _ => .error v.typeName

/-- A value as notices name a destination. -/
def shownTarget (σ : Store) (v : Value) : Destination :=
  match σ.target v with
  | .ok d => d
  | .error _ =>
    match (σ.expand v).literal with
    | .ok s => some s
    | .error _ => none

end Store

namespace Outlets

/-- Content rendered for a destination that is no path but a value of this class, which notices name
by `shown`. -/
def deliverNowhere (o : Outlets) (σ : Store) (className : Text) (shown : Destination)
    (format : Option Text) (content : Content) : Delivery :=
  let r := content.render o.library σ format
  let o := { o with library := r.library }
  match r.result with
  | .error e => ⟨o, r.notices ++ [unrendered shown e], .ok false⟩
  | .ok _ => ⟨o, r.notices, .error (.noPath className)⟩

/-- What a value of this class cannot be asked for, when it stands for a format. -/
def noFormat (className : Text) : Failure :=
  ⟨"AttributeError".toList, noPartMessage (Value.objectOf className) "lower".toList⟩

/-- Content rendered in the format that a value is and written to the destination that a value is.
A message has no format. -/
def deliverTo (o : Outlets) (σ : Store) (destination format : Value) (content : Content) :
    Delivery :=
  match σ.format format, σ.target destination with
  | .error className, _ =>
    ⟨o, [.unrendered (σ.shownTarget destination) (noFormat className)], .ok false⟩
  | .ok f, .ok d => o.deliver σ d f content
  | .ok f, .error className =>
    o.deliverNowhere σ className (σ.shownTarget destination) f content

/-- **Texts name destinations and formats.** -/
theorem deliverTo_text (o : Outlets) (σ : Store) {path name : Text} (hp : path ≠ [])
    (hn : name ≠ []) (content : Content) :
    o.deliverTo σ (.text path) (.text name) content
      = o.deliver σ (some path) (some name) content := by
  have ht : σ.truthy (.text path) = true := by
    cases path <;> simp_all [Store.truthy, Store.view]
  have hf : σ.truthy (.text name) = true := by
    cases name <;> simp_all [Store.truthy, Store.view]
  simp [deliverTo, Store.format, Store.target, ht, hf]

end Outlets

end Marginalia
