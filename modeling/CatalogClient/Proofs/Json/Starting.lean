/-
# Texts that start as no document does

What a document starts with shows in its first character that is no blank. A text with another one
there is refused at this place, however it goes on.
-/

import CatalogClient.Json.Reader

namespace CatalogClient

namespace Json

variable {before rest : List Char} {c : Char}

end Json

end CatalogClient
