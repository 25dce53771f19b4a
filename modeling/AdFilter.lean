import AdFilter.ConfigurationPath
import AdFilter.Proofs.DomainRules
import AdFilter.Proofs.UrlRuleForm
import AdFilter.Proofs.MirroredExceptions
import AdFilter.Proofs.PartyOptions
import AdFilter.Proofs.KnownOptions
import AdFilter.Proofs.RearrangedOptions
import AdFilter.Proofs.ClausePlaces
import AdFilter.Proofs.ListBuckets
import AdFilter.Proofs.JoinedLists
import AdFilter.Proofs.SharedCaches
import AdFilter.Proofs.RecentUse
import AdFilter.Proofs.HitHistories
import AdFilter.Proofs.LoweredRuns
import AdFilter.Proofs.KeywordOccurrence
import AdFilter.Proofs.DirectSearch
import AdFilter.Proofs.TypeMentions
import AdFilter.Proofs.DomainDecisions
import AdFilter.Proofs.RuleActivity
import AdFilter.Proofs.ContentContainment
import AdFilter.Proofs.OwnHosts
import AdFilter.Proofs.DomainLabels
import AdFilter.Proofs.DomainWalks
import AdFilter.Proofs.ExclusiveDomains
import AdFilter.Proofs.InjectedDirectives
import AdFilter.Proofs.DroppedSeparators
import AdFilter.Proofs.ContentForm
import AdFilter.Proofs.ContentActions
import AdFilter.Proofs.WaysToRead
import AdFilter.Proofs.QueriedTypes
import AdFilter.Proofs.AddressParts
import AdFilter.Proofs.SavedConfigurations
import AdFilter.Proofs.KeywordSearch
