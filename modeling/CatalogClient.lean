import CatalogClient.Scope
import CatalogClient.Log
import CatalogClient.Json.Reader
import CatalogClient.Json.Printer
import CatalogClient.Catalog.Reading
import CatalogClient.TypeScript.Reading
import CatalogClient.Emission.Target
import CatalogClient.Client.Generate
import CatalogClient.Storage.Save
import CatalogClient.Catalog.Loading
import CatalogClient.Settings.File
import CatalogClient.Repository.Synchronizer
import CatalogClient.Main
import CatalogClient.Proofs.Catalog.Reading
import CatalogClient.Proofs.Client.Closure
import CatalogClient.Proofs.Client.Binding
import CatalogClient.Proofs.Client.Termination
import CatalogClient.Proofs.Client.Functions
import CatalogClient.Proofs.Client.IgnoredFields
import CatalogClient.Proofs.Client.Order
import CatalogClient.Proofs.Spelling
import CatalogClient.Proofs.Client.Imports
import CatalogClient.Proofs.Client.Records
import CatalogClient.Proofs.Storage.FileSystem
import CatalogClient.Proofs.Storage.Save
import CatalogClient.Proofs.Command.Saving
import CatalogClient.Proofs.Command.Aborting
import CatalogClient.Proofs.Client.Rejection
import CatalogClient.Proofs.Json.Links
import CatalogClient.Proofs.Json.Inlining
import CatalogClient.Proofs.Validation.Transparency
import CatalogClient.Proofs.Catalog.Transparency
import CatalogClient.Proofs.Json.Rings
import CatalogClient.Proofs.Catalog.Loading
import CatalogClient.Proofs.Repository.Unpushed
import CatalogClient.Proofs.Command.Secrecy
import CatalogClient.Proofs.Catalog.Cycles
import CatalogClient.Proofs.Command.Settling
import CatalogClient.Proofs.Command.Placement
import CatalogClient.Proofs.Resolution.Text
import CatalogClient.Proofs.Resolution.Leaves
import CatalogClient.Proofs.Resolution.Scopes
import CatalogClient.Proofs.Client.Interpolation
import CatalogClient.Proofs.Client.ArgumentNames
import CatalogClient.Proofs.Emission.Signatures
import CatalogClient.Proofs.Emission.Interruption
import CatalogClient.Proofs.Emission.Collisions
import CatalogClient.Proofs.Storage.Stopping
import CatalogClient.Proofs.Catalog.Described
import CatalogClient.Proofs.Catalog.KnownContent
import CatalogClient.Proofs.Settings.Ordinary
import CatalogClient.Proofs.Settings.RoundTrip
import CatalogClient.Proofs.TypeScript.Query
import CatalogClient.Proofs.Catalog.Lookup
import CatalogClient.Proofs.TypeScript.Expression
