import PageExtract.Css.Matching
import PageExtract.Css.SelectorReader
import PageExtract.Page.Scope

/-! # The engine for selectors

Every text that is no selector is rejected in the same words.
-/
namespace PageExtract.Css

instance engine : SelectorEngine where
  Selectors := List Selector
  read text :=
    match readSelectors text with
    | some list => .ok list
    | none => .error "not a selector"
  fits list scope e := Selector.anyFits ⟨scope.map Element.path, none⟩ e list

end PageExtract.Css
