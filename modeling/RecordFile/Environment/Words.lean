/-
Beginning and committing in sixty-four bits.

The limit of a transaction and every sum of a commit are words. A payload is written over a buffer
of the length that its transaction carries along: with a writable mapping this is a slice of the
mapping, otherwise a buffer of zeros that then goes to the place. A sum that does not fit gives no
result, and neither does a slice that is not inside the mapping. A mapping can be longer than its
file: no bound of a slice tells that, and what is written behind the end never reaches the file.
-/

import RecordFile.Environment
import RecordFile.Placement.Words
import RecordFile.Records.Buffer
import RecordFile.Transaction.Words

namespace RecordFile.Environment

end RecordFile.Environment
