import Glossa.Session.Step
import Glossa.Proofs.Page.Faults
import Glossa.Proofs.Session.Directives
import Glossa.Proofs.Format.Regions
import Glossa.Proofs.Time.Zone
import Glossa.Proofs.Time.DateText.Written
import Glossa.Proofs.Session.MarkedPhrases
import Glossa.Proofs.Session.Questions
import Glossa.Proofs.Catalogue.History
import Glossa.Proofs.Catalogue.Apart
import Glossa.Proofs.Session.Plurals
import Glossa.Proofs.Format.Instants
import Glossa.Proofs.Page.Names
import Glossa.Proofs.Session.Names
import Glossa.Proofs.Expression
import Glossa.Proofs.Format.Styles
import Glossa.Proofs.Time.DateText.Months
import Glossa.Proofs.Time.Changes
import Glossa.Proofs.Time.FirstInstants
import Glossa.Proofs.Time.DateText.Days
import Glossa.Proofs.Time.DateText.Seconds
import Glossa.Proofs.Time.DateText.Letters
import Glossa.Proofs.Placeholder.LeftOpen
import Glossa.Proofs.Format.Plain
import Glossa.Proofs.Format.Signs
import Glossa.Proofs.Time.Pattern
import Glossa.Proofs.Page.Elements
import Glossa.Proofs.Number.Literal
import Glossa.Proofs.Delimiters
import Glossa.Proofs.Number.Nearest
import Glossa.Proofs.Number.Shortest
import Glossa.Proofs.Value
import Glossa.Proofs.Time.Pattern.Bare
import Glossa.Proofs.Arguments
import Glossa.Proofs.Catalogue.Members
