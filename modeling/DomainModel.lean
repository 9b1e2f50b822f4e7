import DomainModel.Check
import DomainModel.Conversion
import DomainModel.Graph.Decoding
import DomainModel.Graph.Encoding
import DomainModel.Proofs.AddedEntity
import DomainModel.Proofs.Additions
import DomainModel.Proofs.AttributeOrder
import DomainModel.Proofs.BuiltIns
import DomainModel.Proofs.ChangelogDates
import DomainModel.Proofs.CheckModes
import DomainModel.Proofs.CommentsWithoutText
import DomainModel.Proofs.DocumentPresence
import DomainModel.Proofs.Exclusions
import DomainModel.Proofs.FieldRecords
import DomainModel.Proofs.FirstBreach
import DomainModel.Proofs.GraphDocuments
import DomainModel.Proofs.InjectedParts
import DomainModel.Proofs.MirroredEnds
import DomainModel.Proofs.NestedBreaches
import DomainModel.Proofs.PrintedConversion
import DomainModel.Proofs.RecordHistory
import DomainModel.Proofs.Service
import DomainModel.Proofs.StoppedOptions
import DomainModel.Proofs.Wildcards
import DomainModel.Yaml.Printer
