/-! The first line of a text. A line ends at a line feed, and a carriage return
just before that line feed belongs to the line end. -/
namespace CommandPlan.Text

/-- A carriage return is dropped only where a line feed follows it, so a lone
one at the end of the text stays. -/
def firstLineOf (text : List Char) : List Char :=
  let line := text.takeWhile (· ≠ '\n')
  if line.length < text.length ∧ line.getLast? = some '\r' then line.dropLast else line

def firstLine (text : String) : String :=
  String.ofList (firstLineOf text.toList)

end CommandPlan.Text
