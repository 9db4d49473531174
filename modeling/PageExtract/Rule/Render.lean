import PageExtract.Rule.Basic

/-! # The canonical text of a rule

Quoted texts are written as they are, operations follow without blanks, and ` ? ` stands between
alternatives, whatever their nesting.
-/
namespace PageExtract.Rule

mutual

def Op.render : Op → String
  | .text => "#"
  | .attr name => "@'" ++ name ++ "'"
  | .each none ops => ">" ++ Op.renderAll ops
  | .each (some sub) ops => ">" ++ sub.written ++ Op.renderAll ops

def Op.renderAll : List Op → String
  | [] => ""
  | op :: ops => op.render ++ Op.renderAll ops

end

def Selection.render (s : Selection) : String := "D" ++ s.selector.written ++ Op.renderAll s.ops

def render : Rule → String
  | select s => s.render
  | orElse first second => first.render ++ " ? " ++ second.render

end PageExtract.Rule
