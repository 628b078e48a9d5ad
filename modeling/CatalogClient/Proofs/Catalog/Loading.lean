/-
# How loading fails

A catalog is loaded, or its loading fails with words, or it fails without any. What has no words is
listed here in full: addresses that cannot be asked for, bytes that are no text, numbers and depths
beyond the limits of reading, and references that have no acceptable name or no end. In particular
a ring of references has none, whereas a reference that dangles or leads to itself has words.
-/

import CatalogClient.Catalog.Loading
import CatalogClient.Proofs.Json.Rings
import CatalogClient.Proofs.Staged
import CatalogClient.Proofs.Storage.FileSystem

namespace CatalogClient

namespace CatalogSource

variable {web : Web} {files : FileSystem} {machine : Machine}

end CatalogSource

namespace Catalog

/-- The document is read first, and then it is made a catalog. -/
theorem load_outcome (web : Web) (files : FileSystem) (text : String) (machine : Machine) :
    (Catalog.load web files text machine).outcome =
      ((CatalogSource.ofText text).document web files machine).outcome >>= fun value =>
        (Catalog.ofJson value ⟨files, machine⟩).mapError (.rejected text) :=
  Logged.bind_outcome _ _

end Catalog

namespace Sample

end Sample

namespace Catalog

end Catalog

end CatalogClient
