import FlagState.Main
import FlagState.Proofs.Allocation.Respelling
import FlagState.Proofs.Generation.Reading
import FlagState.Proofs.Generation.Truncation
import FlagState.Proofs.Text.Closing
import FlagState.Proofs.Country.Grammar
import FlagState.Proofs.Country.Respelling
import FlagState.Proofs.Matching.ActiveArms
import FlagState.Proofs.Spelling.Names
import FlagState.Proofs.Tables.Published
import FlagState.Proofs.Generation.KnownCountries
import FlagState.Proofs.Generation.IndexedNames
import FlagState.Proofs.Generation.PublishedRows
import FlagState.Proofs.Generation.Output
import FlagState.Proofs.Generation.WellFormedArms
import FlagState.Proofs.Generation.Decoding
import FlagState.Proofs.Generation.JoinedTables
import FlagState.Proofs.Country.Rearrangement
import FlagState.Proofs.Generation.RearrangedCountries
import FlagState.Proofs.Generation.Diagnostics
import FlagState.Proofs.Generation.Accounts
import FlagState.Proofs.FileSystem
import FlagState.Proofs.Program
import FlagState.Proofs.Settings
import FlagState.Proofs.Program.EarlyEnds
import FlagState.Proofs.Program.Delivery
import FlagState.Proofs.Country.History
import FlagState.Proofs.Country.Tally
import FlagState.Proofs.Country.Clean
import FlagState.Proofs.Matching.Calls
import FlagState.Proofs.Generation.BlankEnds
import FlagState.Proofs.BufferedFile
import FlagState.Proofs.Destination
import FlagState.Proofs.Text.Replacement
import FlagState.Proofs.Spelling.Qualifiers
import FlagState.Proofs.Spelling.Territories
import FlagState.Proofs.Spelling.Stability
import FlagState.Proofs.Text.Occurrences
import FlagState.Proofs.Spelling.Guard
import FlagState.Proofs.Spelling.Settling
import FlagState.Proofs.Settings.Fields
import FlagState.Proofs.Settings.Loading
