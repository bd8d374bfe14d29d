import Gleaner.Scraper
import Gleaner.Definition.Document
import Gleaner.MediaType
import Gleaner.LoadError
import Gleaner.Compression
import Gleaner.Source.Reference
import Gleaner.Files.Tree
import Gleaner.Source.Local
import Gleaner.Document
import Gleaner.Toml.Reader
import Gleaner.Catalog
import Gleaner.Settings.Load
import Gleaner.Source.Build
import Gleaner.Command
import Gleaner.Main
import Gleaner.Proofs.Caching
import Gleaner.Proofs.Isolation
import Gleaner.Proofs.Completeness
import Gleaner.Proofs.Harvest
import Gleaner.Proofs.ControlFlow
import Gleaner.Proofs.Siblings
import Gleaner.Proofs.Locations
import Gleaner.Proofs.Terminal
import Gleaner.Proofs.Preparation
import Gleaner.Proofs.Assigning
import Gleaner.Proofs.Stability
import Gleaner.Proofs.Limiting
import Gleaner.Proofs.Inheriting
import Gleaner.Proofs.Assurance
import Gleaner.Proofs.Bounds
import Gleaner.Proofs.Footprint
import Gleaner.Proofs.Streams
import Gleaner.Proofs.Templates
import Gleaner.Proofs.Members
import Gleaner.Proofs.Choosing
import Gleaner.Proofs.Trying
import Gleaner.Proofs.CacheLaw
import Gleaner.Proofs.AtMostOnce
import Gleaner.Proofs.Registering
import Gleaner.Proofs.RoundTrip
import Gleaner.Proofs.Coercing
import Gleaner.Proofs.Skipping
import Gleaner.Proofs.AssignmentOrder
import Gleaner.Proofs.Layers
import Gleaner.Proofs.Joining
import Gleaner.Proofs.DollarRuns
import Gleaner.Proofs.Reach
import Gleaner.Proofs.Blaming
import Gleaner.Proofs.Answering
import Gleaner.Proofs.Routing
import Gleaner.Proofs.NumericText
import Gleaner.Proofs.Matching
