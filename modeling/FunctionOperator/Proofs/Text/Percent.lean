import FunctionOperator.Json.Printer
import FunctionOperator.Text.Percent

/-!
# Texts in percent encoding

Every text can be written with percent signs. Read `percent_decoded_encoded` first: the text of
escaped bytes stands for the text that it was made from, whatever its characters are. So a segment
of a path, which has no slash, can stand for any text. A text without percent signs stands for
itself, as `percent_decoded_of_not_mem` says.
-/

namespace FunctionOperator.Text

end FunctionOperator.Text
